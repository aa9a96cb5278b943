import Mathlib.Data.List.Induction
import Mathlib.Data.List.TakeWhile
import Mathlib.Data.Nat.Digits.Defs
import StoryScript.Proofs.ReplaceAll

/-! References in a replacement. A replacement is read from left to right as tokens, each the longest that
stands at its place: two dollars, a dollar with an ampersand, a dollar with all the digits behind it, or
one character. What it expands to are the values of its tokens in a row, and nothing that comes in with a
match is read again. -/
namespace StoryScript.Edit

open Search (Match Options)
open Text (isDigit valueIn)

/-! ### Tokens -/

@[ext] structure Digits where
  chars : List Char
  nonempty : chars ≠ []
  decimal : ∀ c ∈ chars, c.isDigit = true

def Digits.leading (text : List Char) (some_digit : text.takeWhile Char.isDigit ≠ []) : Digits :=
  ⟨text.takeWhile Char.isDigit, some_digit, fun _ member => List.mem_takeWhile_imp member⟩

def Digits.value (digits : Digits) : Nat :=
  Nat.ofDigits 10 (digits.chars.reverse.map fun c => c.toNat - '0'.toNat)

inductive Token where
  | dollar
  | whole
  | reference (digits : Digits)
  | plain (c : Char)

/-- A group of a match by its number, the match itself being number 0. It is empty if there is no such
group, or if it took no part. -/
def captured (m : Match) : Nat → String
  | 0 => m.matchedText
  | index + 1 => (m.groups[index]?.getD none).getD ""

namespace Token

def written : Token → List Char
  | dollar => ['$', '$']
  | whole => ['$', '&']
  | reference digits => '$' :: digits.chars
  | plain c => [c]

def value (m : Match) : Token → List Char
  | dollar => ['$']
  | whole => m.matchedText.toList
  | reference digits => (captured m digits.value).toList
  | plain c => [c]

/-- The text starts with the token, and with no longer one. -/
structure Leads (token : Token) (text : List Char) : Prop where
  starts : token.written <+: text
  longest : ∀ other : Token, other.written <+: text → other.written.length ≤ token.written.length

end Token

/-- `ReadAs text tokens`: from left to right, the tokens are the longest ones that the text starts with. -/
inductive ReadAs : List Char → List Token → Prop where
  | done : ReadAs [] []
  | next {text rest : List Char} {token : Token} {later : List Token} :
      text = token.written ++ rest → token.Leads text → ReadAs rest later →
      ReadAs text (token :: later)

/-! ### Values -/

/-- Digits are read as decimals are written, the last one counting least. -/
theorem valueIn_eq_ofDigits (chars : List Char) (decimal : ∀ c ∈ chars, c.isDigit = true) :
    valueIn 10 chars = Nat.ofDigits 10 (chars.reverse.map fun c => c.toNat - '0'.toNat) := by
  induction chars using List.reverseRecOn with
  | nil => rfl
  | append_singleton chars last ih =>
    have before := ih fun c member => decimal c (List.mem_append_left _ member)
    have digit := Text.digitValue?_of_isDigit (decimal last (by simp))
    rw [valueIn] at before
    rw [valueIn, List.foldl_append, before, List.foldl_cons, List.foldl_nil, digit,
      List.reverse_append, List.reverse_singleton, List.singleton_append, List.map_cons,
      Nat.ofDigits_cons, Nat.add_comm]

theorem groupText_eq (m : Match) (number : Nat) : groupText m number = (captured m number).toList := by
  cases number with
  | zero => rfl
  | succ index =>
    rw [groupText, if_neg (Nat.succ_ne_zero index), captured, Nat.add_sub_cancel]
    rcases m.groups[index]? with _ | _ | text <;> rfl

/-! ### The longest token -/

theorem Digits.exists_cons (digits : Digits) :
    ∃ first more, digits.chars = first :: more ∧ first.isDigit = true := by
  obtain ⟨first, more, chars⟩ := List.exists_cons_of_ne_nil digits.nonempty
  exact ⟨first, more, chars, digits.decimal first (by rw [chars]; exact List.mem_cons_self)⟩

theorem Digits.not_prefix (digits : Digits) (c : Char) (other : c.isDigit = false) (rest : List Char) :
    ¬ digits.chars <+: c :: rest := by
  obtain ⟨first, more, chars, digit⟩ := digits.exists_cons
  rw [chars, List.cons_prefix_cons]
  rintro ⟨rfl, _⟩
  rw [digit] at other
  cases other

namespace Token

theorem written_ne_nil (token : Token) : token.written ≠ [] := by
  cases token <;> simp [written]

theorem written_injective {a b : Token} (same : a.written = b.written) : a = b := by
  -- A reference is told from the others by the digit behind its dollar.
  have apart (digits : Digits) : digits.chars ≠ [] ∧ digits.chars ≠ ['$'] ∧ digits.chars ≠ ['&'] :=
    ⟨digits.nonempty, fun equal => digits.not_prefix '$' rfl [] (equal ▸ List.prefix_refl _),
      fun equal => digits.not_prefix '&' rfl [] (equal ▸ List.prefix_refl _)⟩
  cases a <;> cases b <;> grind [written, Digits.ext]

theorem Leads.unique {a b : Token} {text : List Char} (leads : a.Leads text) (also : b.Leads text) :
    a = b := by
  have length := Nat.le_antisymm (also.longest a leads.starts) (leads.longest b also.starts)
  exact written_injective ((List.prefix_of_prefix_length_le leads.starts also.starts
    (Nat.le_of_eq length)).eq_of_length length)

/-- Two characters that are not a reference are the longest token if they are one. -/
theorem leads_pair {token : Token} {c : Char} (other : c.isDigit = false)
    (written : token.written = ['$', c]) (rest : List Char) : token.Leads (token.written ++ rest) := by
  refine ⟨List.prefix_append _ _, fun longer starts => ?_⟩
  rw [written] at starts ⊢
  cases longer with
  | reference digits =>
    have digitsNext : digits.chars <+: c :: rest := (List.cons_prefix_cons.mp starts).2
    exact absurd digitsNext (digits.not_prefix c other rest)
  | dollar | whole | plain _ => simp [Token.written]

theorem leads_reference (digits : Digits) {text : List Char}
    (all : digits.chars = text.takeWhile Char.isDigit) : (reference digits).Leads ('$' :: text) := by
  refine ⟨?_, fun other starts => ?_⟩
  · rw [written, all, List.cons_prefix_cons]
    exact ⟨rfl, List.takeWhile_prefix _⟩
  · cases other with
    | reference others =>
      obtain ⟨behind, rfl⟩ := (List.cons_prefix_cons.mp starts).2
      rw [List.takeWhile_append_of_pos others.decimal] at all
      simp [written, all]
    | dollar | whole | plain _ =>
      have := List.length_pos_iff.mpr digits.nonempty
      simp only [written, List.length_cons, List.length_nil]
      omega

/-- A character stands for itself, unless it is a dollar and what follows belongs to it. -/
theorem leads_plain {c : Char} {rest : List Char}
    (alone : c = '$' → ∀ next ∈ rest.head?, next ≠ '$' ∧ next ≠ '&' ∧ next.isDigit = false) :
    (plain c).Leads (c :: rest) := by
  refine ⟨by simp [written], fun other starts => ?_⟩
  cases other with
  | plain => exact Nat.le_refl 1
  | dollar =>
    obtain ⟨rfl, behind, rfl⟩ := List.cons_prefix_cons.mp starts
    exact absurd rfl (alone rfl '$' rfl).1
  | whole =>
    obtain ⟨rfl, behind, rfl⟩ := List.cons_prefix_cons.mp starts
    exact absurd rfl (alone rfl '&' rfl).2.1
  | reference digits =>
    obtain ⟨rfl, behind, rfl⟩ := List.cons_prefix_cons.mp starts
    obtain ⟨first, more, chars, digit⟩ := digits.exists_cons
    have notDigit := (alone rfl first (by rw [chars]; rfl)).2.2
    rw [digit] at notDigit
    cases notDigit

end Token

namespace ReadAs

theorem unique {text : List Char} {tokens others : List Token} (read : ReadAs text tokens)
    (again : ReadAs text others) : tokens = others := by
  induction read generalizing others with
  | done =>
    cases again with
    | done => rfl
    | next whole _ _ => exact absurd (List.append_eq_nil_iff.mp whole.symm).1 (Token.written_ne_nil _)
  | @next text rest token later whole leads _ ih =>
    cases again with
    | done => exact absurd (List.append_eq_nil_iff.mp whole.symm).1 (Token.written_ne_nil _)
    | next whole' leads' later' =>
      cases leads.unique leads'
      rw [ih (List.append_cancel_left (whole.symm.trans whole') ▸ later')]

end ReadAs

/-- What a replacement expands to are the values of the tokens that it is read as. -/
theorem exists_readAs (m : Match) (text : List Char) :
    ∃ tokens, ReadAs text tokens ∧ expandChars m text = tokens.flatMap (·.value m) := by
  fun_induction expandChars m text with
  | case1 => exact ⟨[], .done, rfl⟩
  | case2 rest ih =>
    obtain ⟨later, read, expanded⟩ := ih
    exact ⟨.dollar :: later, .next rfl (Token.leads_pair rfl rfl rest) read, by rw [expanded]; rfl⟩
  | case3 rest ih =>
    obtain ⟨later, read, expanded⟩ := ih
    exact ⟨.whole :: later, .next rfl (Token.leads_pair rfl rfl rest) read, by rw [expanded]; rfl⟩
  | case4 c rest notDollar notWhole followed ih =>
    obtain ⟨later, read, expanded⟩ := ih
    obtain ⟨rfl, some_digit⟩ := followed
    rw [show isDigit = Char.isDigit from funext Text.isDigit_eq] at *
    obtain ⟨digits, chars⟩ : ∃ digits : Digits, digits.chars = rest.takeWhile Char.isDigit :=
      ⟨.leading rest (by simpa using some_digit), rfl⟩
    have split : '$' :: rest = (Token.reference digits).written ++ rest.dropWhile Char.isDigit := by
      rw [Token.written, chars, List.cons_append, List.takeWhile_append_dropWhile]
    refine ⟨.reference digits :: later, .next split (Token.leads_reference digits chars) read, ?_⟩
    rw [expanded, ← chars, valueIn_eq_ofDigits digits.chars digits.decimal, groupText_eq]
    rfl
  | case5 c rest notDollar notWhole unfollowed ih =>
    obtain ⟨later, read, expanded⟩ := ih
    refine ⟨.plain c :: later, .next rfl (Token.leads_plain fun dollar next follows => ?_) read, by
      rw [expanded]; rfl⟩
    obtain ⟨more, rfl⟩ := List.head?_eq_some_iff.mp follows
    refine ⟨?_, ?_, ?_⟩
    · rintro rfl
      exact notDollar more dollar rfl
    · rintro rfl
      exact notWhole more dollar rfl
    · rw [Bool.eq_false_iff]
      intro digit
      apply unfollowed
      simp [dollar, Text.isDigit_eq, digit]

theorem expand_of_readAs {replacement : String} {tokens : List Token}
    (read : ReadAs replacement.toList tokens) (m : Match) :
    (expand replacement m).toList = tokens.flatMap (·.value m) := by
  obtain ⟨others, again, expanded⟩ := exists_readAs m replacement.toList
  rw [expand, String.toList_ofList, expanded, again.unique read]

/-! ### Replacements that mean a given text -/

def doubled (text : List Char) : List Char :=
  text.flatMap fun c => if c = '$' then ['$', '$'] else [c]

theorem readAs_doubled (text : List Char) :
    ReadAs (doubled text) (text.map fun c => if c = '$' then .dollar else .plain c) := by
  induction text with
  | nil => exact .done
  | cons c rest ih =>
    by_cases dollar : c = '$'
    · subst dollar
      exact .next rfl (Token.leads_pair rfl rfl (doubled rest)) ih
    · have kept : doubled (c :: rest) = c :: doubled rest := by simp [doubled, dollar]
      rw [kept, List.map_cons, if_neg dollar]
      exact .next rfl (Token.leads_plain fun same => absurd same dollar) ih

theorem expand_doubled (text : String) (m : Match) :
    expand (String.ofList (doubled text.toList)) m = text := by
  have read := readAs_doubled text.toList
  have back (c : Char) : (if c = '$' then Token.dollar else .plain c).value m = [c] := by
    split
    · rename_i dollar
      rw [dollar]
      rfl
    · rfl
  rw [← String.toList_inj, expand_of_readAs (by rwa [String.toList_ofList]), List.flatMap_map]
  simp only [back]
  exact List.flatMap_singleton' _

theorem expand_whole (m : Match) : expand "$&" m = m.matchedText := by
  have read : ReadAs "$&".toList [.whole] := .next rfl (Token.leads_pair rfl rfl []) .done
  rw [← String.toList_inj, expand_of_readAs read]
  exact List.append_nil _

theorem expand_zero (m : Match) : expand "$0" m = m.matchedText := by
  have read : ReadAs "$0".toList [.reference (.leading ['0'] (by decide))] :=
    .next rfl (Token.leads_reference _ rfl) .done
  rw [← String.toList_inj, expand_of_readAs read]
  exact List.append_nil _

/-- Putting each match back leaves the source as it is. -/
theorem replaceAll_of_expand_eq {source query replacement : String} {options : Options}
    (usable : Search.Usable query options) (regex : options.regex = true)
    (back : ∀ m, expand replacement m = m.matchedText) :
    replaceAll source query options replacement =
      .ok ⟨source, (Search.find source query options).found.length, true⟩ := by
  obtain ⟨text, applied, spliced⟩ := apply_planAll_find source query options replacement
  have same : text.toList = source.toList := by
    refine spliced.eq_self List.drop_zero.symm fun cut member => ?_
    obtain ⟨m, found, rfl⟩ := List.mem_map.mp member
    have stands := Search.find_standsIn source query options found
    rw [cutFor, if_pos regex, back]
    exact stands.slice_source.symm
  rw [replaceAll_of_usable usable applied, String.toList_inj.mp same]

/-- A replacement is read in one way, always as the longest token that comes next, and expands to the
values of its tokens. So a text with its dollars doubled expands to itself, and putting `$&` or `$0` in
the place of every match of a pattern changes nothing. -/
theorem expand_tokens (replacement : String) (m : Match) :
    (∃ tokens, (∀ others, ReadAs replacement.toList others ↔ others = tokens) ∧
      (expand replacement m).toList = tokens.flatMap (·.value m)) ∧
    (∀ text, expand (String.ofList (doubled text.toList)) m = text) ∧
    ∀ source query options, options.regex = true → Search.Usable query options →
      ∀ reference ∈ ["$&", "$0"], replaceAll source query options reference =
        .ok ⟨source, (Search.find source query options).found.length, true⟩ := by
  obtain ⟨tokens, read, _⟩ := exists_readAs m replacement.toList
  refine ⟨⟨tokens, fun others => ⟨fun again => again.unique read, fun same => same ▸ read⟩,
    expand_of_readAs read m⟩, fun text => expand_doubled text m, ?_⟩
  intro source query options regex usable reference listed
  apply replaceAll_of_expand_eq usable regex
  rw [List.mem_cons, List.mem_singleton] at listed
  rcases listed with rfl | rfl
  · exact expand_whole
  · exact expand_zero

/-- A pattern with a group that takes part in one of its two matches. -/
theorem expand_tokens_optional_group :
    let options : Options := ⟨true, true, false⟩
    options.regex = true ∧ Search.Usable "(n)?o" options ∧ "$0" ∈ ["$&", "$0"] ∧
      replaceAll "north, south" "(n)?o" options "$0" =
        .ok ⟨"north, south", (Search.find "north, south" "(n)?o" options).found.length, true⟩ := by
  intro options
  have usable : Search.Usable "(n)?o" options :=
    (Search.find_patternError_eq_none_iff "" _ _).mp (by decide +kernel)
  have listed : "$0" ∈ ["$&", "$0"] := by decide
  exact ⟨rfl, usable, listed,
    (expand_tokens "" ⟨1, 1, 2, "n", "n", []⟩).2.2 _ _ options rfl usable _ listed⟩

end StoryScript.Edit
