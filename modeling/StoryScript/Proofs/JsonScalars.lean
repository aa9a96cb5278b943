import Mathlib.Data.List.TakeDrop
import StoryScript.Json.Reader

/-! The texts of JSON's strings and whole numbers, and that they are read as what they stand for. -/
namespace StoryScript.Json

/-! ### White space -/

def Blank (text : List Char) : Prop :=
  ∀ c ∈ text, (c == ' ' || c == '\n' || c == '\r' || c == '\t') = true

theorem blank_nil : Blank [] := List.forall_mem_nil _

theorem skip_append {white : List Char} (blank : Blank white) (rest : List Char) :
    skip (white ++ rest) = skip rest :=
  List.dropWhile_append_of_pos blank

def Solid (c : Char) : Prop := (c == ' ' || c == '\n' || c == '\r' || c == '\t') = false

instance : DecidablePred Solid := fun _ => inferInstanceAs (Decidable (_ = false))

theorem skip_cons {c : Char} (solid : Solid c) (rest : List Char) : skip (c :: rest) = c :: rest :=
  List.dropWhile_cons_of_neg (by rw [solid]; simp)

/-! ### Words and strings -/

theorem word?_append (word : String) (value : Json) (rest : List Char) :
    word? word value (word.toList ++ rest) = some (value, rest) := by
  simp [word?, ← String.length_toList]

/-- A character is written behind a backslash, with its code, or as it is. -/
theorem escapeChar_cases (c : Char) :
    (∃ short, short ≠ 'u' ∧ simpleEscape? short = some c ∧ escapeChar c = ['\\', short]) ∨
    (c.toNat < 0x20 ∧ escapeChar c =
      ['\\', 'u', '0', '0', hexDigit (c.toNat / 16), hexDigit (c.toNat % 16)]) ∨
    (c ≠ '"' ∧ c ≠ '\\' ∧ ¬ c.toNat < 0x20 ∧ escapeChar c = [c]) := by
  by_cases simple : c ∈ ['"', '\\', '\n', '\r', '\t', '\x08', '\x0c']
  · left
    simp only [List.mem_cons, List.not_mem_nil, or_false] at simple
    rcases simple with rfl | rfl | rfl | rfl | rfl | rfl | rfl
    all_goals exact ⟨_, by decide, rfl, rfl⟩
  · right
    simp only [List.mem_cons, List.not_mem_nil, or_false, not_or] at simple
    obtain ⟨quote, backslash, newline, carriage, tab, back, form⟩ := simple
    by_cases control : c.toNat < 0x20
    · left
      simp [escapeChar, *]
    · right
      simp [escapeChar, *]

theorem unicodeEscape?_control {n : Nat} (control : n < 0x20) (rest : List Char) :
    unicodeEscape? ('0' :: '0' :: hexDigit (n / 16) :: hexDigit (n % 16) :: rest) =
      some (Char.ofNat n, rest) := by
  have codes : ∀ n < 0x20, Text.valueIn 16 ['0', '0', hexDigit (n / 16), hexDigit (n % 16)] = n ∧
      ['0', '0', hexDigit (n / 16), hexDigit (n % 16)].all Text.isHexDigit = true := by
    decide
  obtain ⟨code, hex⟩ := codes n control
  have unit : unit? ('0' :: '0' :: hexDigit (n / 16) :: hexDigit (n % 16) :: rest) =
      some (n, rest) := by
    simp only [unit?, List.take_succ_cons, List.take_zero, List.drop_succ_cons, List.drop_zero, hex,
      code, List.length_cons, List.length_nil, and_self, if_true]
  have low : n < 0xD800 ∨ 0xDFFF < n := .inl (by omega)
  simp only [unicodeEscape?, unit, low, if_true, Option.bind_eq_bind, Option.bind_some, Option.pure_def]

theorem afterQuote?_escapeChar (c : Char) (read : List Char) (fuel : Nat) (rest : List Char) :
    afterQuote? read (fuel + 1) (escapeChar c ++ rest) = afterQuote? (c :: read) fuel rest := by
  rcases escapeChar_cases c with ⟨short, notCode, simple, made⟩ | ⟨control, made⟩ |
    ⟨quote, backslash, plain, made⟩
  · simp [made, afterQuote?, simple]
  · simp [made, afterQuote?, unicodeEscape?_control control]
  · simp [made, afterQuote?, backslash, plain]

theorem afterQuote?_quoted (chars read : List Char) {fuel : Nat} (enough : chars.length < fuel)
    (rest : List Char) :
    afterQuote? read fuel (chars.flatMap escapeChar ++ '"' :: rest) =
      some (String.ofList (read.reverse ++ chars), rest) := by
  induction chars generalizing read fuel with
  | nil =>
    obtain ⟨fuel, rfl⟩ : ∃ n, fuel = n + 1 := ⟨fuel - 1, by simp at enough; omega⟩
    simp [afterQuote?]
  | cons c chars ih =>
    obtain ⟨fuel, rfl⟩ : ∃ n, fuel = n + 1 := ⟨fuel - 1, by simp at enough; omega⟩
    rw [List.flatMap_cons, List.append_assoc, afterQuote?_escapeChar,
      ih (c :: read) (by simpa using enough)]
    simp

theorem quote_toList (text : String) :
    (quote text).toList = '"' :: (text.toList.flatMap escapeChar ++ ['"']) := by
  rw [quote, String.toList_ofList, List.cons_append]

theorem escapeChar_ne_nil (c : Char) : escapeChar c ≠ [] := by
  rcases escapeChar_cases c with ⟨_, _, _, made⟩ | ⟨_, made⟩ | ⟨_, _, _, made⟩
  all_goals simp [made]

theorem length_le_length_escaped (chars : List Char) :
    chars.length ≤ (chars.flatMap escapeChar).length := by
  induction chars with
  | nil => simp
  | cons c chars ih =>
    have := List.length_pos_iff.mpr (escapeChar_ne_nil c)
    rw [List.flatMap_cons, List.length_append, List.length_cons]
    omega

theorem afterQuote?_quote (text : String) {tail rest : List Char}
    (quoted : '"' :: tail = (quote text).toList ++ rest) :
    afterQuote? [] (tail.length + 1) tail = some (text, rest) := by
  obtain rfl : tail = text.toList.flatMap escapeChar ++ '"' :: rest := by
    simpa [quote_toList] using quoted
  have := length_le_length_escaped text.toList
  rw [afterQuote?_quoted text.toList [] (by rw [List.length_append]; omega)]
  simp

/-! ### Numbers -/

/-- What follows a number does not belong to it. -/
def Stops (rest : List Char) : Prop :=
  ∀ c, rest.head? = some c → Text.isDigit c = false ∧ c ≠ '.' ∧ c ≠ 'e' ∧ c ≠ 'E'

theorem Stops.cons (c : Char) (other : Text.isDigit c = false ∧ c ≠ '.' ∧ c ≠ 'e' ∧ c ≠ 'E')
    (rest : List Char) : Stops (c :: rest) := by
  rintro d first
  obtain rfl : c = d := by simpa using first
  exact other

theorem Stops.append {white rest : List Char} (blank : Blank white) (stops : Stops rest) :
    Stops (white ++ rest) := by
  cases white with
  | nil => exact stops
  | cons c white =>
    have whiteSpace := blank c List.mem_cons_self
    simp only [Bool.or_eq_true, beq_iff_eq] at whiteSpace
    rcases whiteSpace with ((rfl | rfl) | rfl) | rfl
    all_goals exact Stops.cons _ (by decide) (white ++ rest)

theorem digits_append {whole rest : List Char} (decimal : ∀ c ∈ whole, Text.isDigit c = true)
    (stops : Stops rest) : digits (whole ++ rest) = (whole, rest) := by
  rw [digits, List.span_eq_takeWhile_dropWhile, List.takeWhile_append_of_pos decimal,
    List.dropWhile_append_of_pos decimal]
  cases rest with
  | nil => simp
  | cons c more => simp [(stops c rfl).1]

theorem isDigit_of_mem_toDigits {n : Nat} {c : Char} (member : c ∈ Nat.toDigits 10 n) :
    Text.isDigit c = true := by
  rw [Text.isDigit_eq]
  exact Nat.isDigit_of_mem_toDigits (by decide) (by decide) member

theorem valueIn_concat {base digit : Nat} {c : Char} (value : Text.digitValue? c = some digit)
    (chars : List Char) :
    Text.valueIn base (chars ++ [c]) = base * Text.valueIn base chars + digit := by
  rw [Text.valueIn, List.foldl_append, List.foldl_cons, List.foldl_nil, value]
  rfl

theorem digitValue?_digitChar : ∀ digit < 10, Text.digitValue? (Nat.digitChar digit) = some digit := by
  decide

theorem valueIn_toDigits (n : Nat) : Text.valueIn 10 (Nat.toDigits 10 n) = n := by
  rw [Nat.toDigits_eq_if (by decide)]
  split
  · rename_i small
    exact (valueIn_concat (digitValue?_digitChar n small) []).trans (Nat.zero_add n)
  · have last := digitValue?_digitChar (n % 10) (Nat.mod_lt n (by decide))
    rw [valueIn_concat last, valueIn_toDigits (n / 10), Nat.div_add_mod]

theorem eq_zero_of_head?_toDigits {n : Nat} (zero : (Nat.toDigits 10 n).head? = some '0') : n = 0 := by
  rw [Nat.toDigits_eq_if (by decide)] at zero
  split at zero
  · simpa using zero
  · rename_i large
    rw [List.head?_append, List.head?_eq_some_head Nat.toDigits_ne_nil, Option.some_or,
      ← List.head?_eq_some_head] at zero
    have := eq_zero_of_head?_toDigits zero
    omega

/-- Digits of a number are what a reader takes for them: there are some, and no zero in front. -/
theorem toDigits_canonical (n : Nat) : ¬ ((Nat.toDigits 10 n).isEmpty = true ∨
    ((Nat.toDigits 10 n).length ≠ 1 ∧ (Nat.toDigits 10 n).head? = some '0')) := by
  rintro (empty | ⟨long, zero⟩)
  · exact Nat.toDigits_ne_nil (List.isEmpty_iff.mp empty)
  · rw [eq_zero_of_head?_toDigits zero] at long
    exact long rfl

theorem toDigits_unsigned (n : Nat) (rest tail : List Char) : Nat.toDigits 10 n ++ rest ≠ '-' :: tail := by
  intro starts
  have first : (Nat.toDigits 10 n).head? = some '-' := by
    have head := congrArg List.head? starts
    rwa [List.head?_append, List.head?_eq_some_head Nat.toDigits_ne_nil, Option.some_or,
      ← List.head?_eq_some_head, List.head?_cons] at head
  exact absurd (isDigit_of_mem_toDigits (List.mem_of_head? first)) (by decide)

/-- A whole number of 64 bits, with or without a sign. -/
def InWord (n : Int) : Prop := -0x8000000000000000 ≤ n ∧ n < 0x10000000000000000

theorem number?_intText {n : Int} (fits : InWord n) {rest : List Char} (stops : Stops rest) :
    number? ((intText n).toList ++ rest) = some (.int n, rest) := by
  obtain ⟨low, high⟩ := fits
  have value := valueIn_toDigits n.natAbs
  have canonical := toDigits_canonical n.natAbs
  have unsigned := toDigits_unsigned n.natAbs rest
  have split : digits (Nat.toDigits 10 n.natAbs ++ rest) = (Nat.toDigits 10 n.natAbs, rest) :=
    digits_append (fun c => isDigit_of_mem_toDigits) stops
  rw [intText, String.toList_ofList]
  generalize Nat.toDigits 10 n.natAbs = whole at value canonical unsigned split ⊢
  -- A dot or an exponent would go on with the number, but neither follows.
  have ends : rest = [] ∨ ∃ c more, rest = c :: more ∧ c ≠ '.' ∧ c ≠ 'e' ∧ c ≠ 'E' := by
    cases rest with
    | nil => exact .inl rfl
    | cons c more => exact .inr ⟨c, more, rfl, (stops c rfl).2⟩
  by_cases negative : n < 0
  · have inside : 0 < n.natAbs ∧ n.natAbs ≤ 0x8000000000000000 := by omega
    have back : -(n.natAbs : Int) = n := by omega
    rw [if_pos negative, List.cons_append, List.nil_append, List.cons_append]
    rcases ends with rfl | ⟨c, more, rfl, point, small, large⟩
    · simp only [number?, split, if_neg canonical, value, inside, back]
      simp
    · simp only [number?, split, if_neg canonical, value, inside, back]
      simp [point, small, large]
  · have inside : n.natAbs < 0x10000000000000000 := by omega
    have back : (n.natAbs : Int) = n := by omega
    rw [if_neg negative, List.nil_append]
    rcases ends with rfl | ⟨c, more, rfl, point, small, large⟩
    · simp only [number?, split, if_neg canonical, value, inside, back]
      simp
    · simp only [number?, split, if_neg canonical, value, inside, back]
      simp [point, small, large]

theorem intText_head (n : Int) : ∃ c tail, (intText n).toList = c :: tail ∧
    (c = '-' ∨ Text.isDigit c = true) := by
  rw [intText, String.toList_ofList]
  by_cases negative : n < 0
  · exact ⟨'-', _, by rw [if_pos negative]; rfl, .inl rfl⟩
  · rw [if_neg negative, List.nil_append]
    cases whole : Nat.toDigits 10 n.natAbs with
    | nil => exact absurd whole Nat.toDigits_ne_nil
    | cons c tail =>
      exact ⟨c, tail, rfl, .inr (isDigit_of_mem_toDigits (by rw [whole]; exact List.mem_cons_self))⟩

theorem ne_of_sign {c : Char} (sign : c = '-' ∨ Text.isDigit c = true) (d : Char)
    (other : ¬ (d = '-' ∨ Text.isDigit d = true)) : c ≠ d := by
  rintro rfl
  exact other sign

theorem solid_of_sign {c : Char} (sign : c = '-' ∨ Text.isDigit c = true) : Solid c := by
  simp [Solid, ne_of_sign sign ' ' (by decide), ne_of_sign sign '\n' (by decide),
    ne_of_sign sign '\r' (by decide), ne_of_sign sign '\t' (by decide)]

end StoryScript.Json
