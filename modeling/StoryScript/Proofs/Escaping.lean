import Mathlib.Data.List.Forall2
import StoryScript.Proofs.Literals

/-! Texts written as patterns. A backslash before each character with a meaning of its own makes a
pattern of any text, and between two word boundaries a pattern of whole words. Such a pattern is read
back token by token, and its program is the one made of the text directly. -/
namespace StoryScript.Pattern

/-- The characters that may have a meaning of their own in a pattern. -/
def isMeta (c : Char) : Bool :=
  ['\\', '.', '+', '*', '?', '(', ')', '|', '[', ']', '{', '}', '^', '$', '#', '&', '-', '~'].contains c

/-- The written form of a part of a pattern that has no parts of its own. -/
inductive Token where
  /-- The character itself. -/
  | char (c : Char)
  | boundary
  deriving DecidableEq, Repr

namespace Token

def written : Token → List Char
  | .char c => if isMeta c then ['\\', c] else [c]
  | .boundary => ['\\', 'b']

def ast (span : Span) : Token → Ast
  | .char c => .literal ⟨c, false, span⟩
  | .boundary => .assertion span .boundary

/-- The part of a pattern is this token, wherever it was written. -/
def Reads (token : Token) (ast : Ast) : Prop := ∃ span, ast = token.ast span

def node (ignoreCase : Bool) : Token → Node
  | .char c => .set (.ofChar ignoreCase c)
  | .boundary => .look (.word .either false)

def inst (ignoreCase : Bool) : Token → Inst
  | .char c => .consume (.ofChar ignoreCase c)
  | .boundary => .require (.word .either false)

end Token

def tokensOf (wholeWord : Bool) (text : List Char) : List Token :=
  if wholeWord then .boundary :: text.map .char ++ [.boundary] else text.map .char

def escaped (wholeWord : Bool) (text : String) : String :=
  String.ofList ((tokensOf wholeWord text.toList).flatMap Token.written)

namespace Parser

theorem bind_ok {α β : Type} {first : Parser α} {andThen : α → Parser β} {state next : ParserState}
    {value : α} (read : first state = .ok (value, next)) :
    (first >>= andThen) state = andThen value next := by
  simp only [bind, StateT.bind, read, Except.bind]

section

variable {items branches : List Ast} {itemsStart start position : Position} {fuel groups : Nat}
  {names : List (List Char × Span)} {rest : List Char}

/-- The characters at which an expression goes on with more than a single part. -/
def isOperator (c : Char) : Bool := [')', '|', '(', '[', '?', '*', '+', '{'].contains c

/-- One round of an expression: a part without parts joins those read before it. -/
theorem expression_primitive {c : Char} (plain : isOperator c = false) {item : Primitive}
    {next : ParserState}
    (read : primitive c ⟨c :: rest, position, false, groups, names⟩ = .ok (item, next)) :
    expression items branches itemsStart start (fuel + 1)
        ⟨c :: rest, position, false, groups, names⟩ =
      expression (item.toAst :: items) branches itemsStart start fuel next := by
  have noSpace : skipSpace ⟨c :: rest, position, false, groups, names⟩ =
    .ok ((), ⟨c :: rest, position, false, groups, names⟩) := rfl
  have seen : peek ⟨c :: rest, position, false, groups, names⟩ =
    .ok (some c, ⟨c :: rest, position, false, groups, names⟩) := rfl
  rw [expression, bind_ok noSpace, bind_ok seen]
  generalize same : some c = ahead
  split
  case h_1 => cases same
  -- The character is none of those that the round tells apart.
  case h_10 =>
    cases same
    exact bind_ok read
  all_goals
    cases same
    cases plain

/-- A character without a meaning of its own stands for itself. -/
theorem primitive_plain {c : Char} (plain : isMeta c = false) :
    primitive c ⟨c :: rest, position, false, groups, names⟩ =
      .ok (.literal ⟨c, false, ⟨position, position.next c⟩⟩,
        ⟨rest, position.next c, false, groups, names⟩) := by
  have different : c ≠ '\\' ∧ c ≠ '.' ∧ c ≠ '^' ∧ c ≠ '$' := by
    refine ⟨?_, ?_, ?_, ?_⟩ <;> rintro rfl <;> cases plain
  obtain ⟨backslash, dot, caret, dollar⟩ := different
  have span : charSpan ⟨c :: rest, position, false, groups, names⟩ =
    .ok (⟨position, position.next c⟩, ⟨c :: rest, position, false, groups, names⟩) := rfl
  have bumped : bump ⟨c :: rest, position, false, groups, names⟩ =
    .ok ((), ⟨rest, position.next c, false, groups, names⟩) := rfl
  rw [primitive, if_neg (by simpa using backslash), bind_ok span, bind_ok bumped]
  split
  · exact absurd rfl dot
  · exact absurd rfl caret
  · exact absurd rfl dollar
  · rfl

/-- A character with a meaning of its own stands for itself after a backslash. -/
theorem primitive_escaped {c : Char} (special : isMeta c = true) :
    primitive '\\' ⟨'\\' :: c :: rest, position, false, groups, names⟩ =
      .ok (.literal ⟨c, false, ⟨position, (position.next '\\').next c⟩⟩,
        ⟨rest, (position.next '\\').next c, false, groups, names⟩) := by
  simp only [isMeta, List.contains_eq_mem, List.mem_cons, List.not_mem_nil, or_false,
    decide_eq_true_eq] at special
  rcases special with rfl | rfl | rfl | rfl | rfl | rfl | rfl | rfl | rfl | rfl | rfl | rfl | rfl |
    rfl | rfl | rfl | rfl | rfl <;> rfl

/-- A backslash and a `b` ask for a word boundary, unless a brace makes more of them. -/
theorem primitive_boundary (unbraced : rest.head? ≠ some '{') :
    primitive '\\' ⟨'\\' :: 'b' :: rest, position, false, groups, names⟩ =
      .ok (.assertion ⟨position, (position.next '\\').next 'b'⟩ .boundary,
        ⟨rest, (position.next '\\').next 'b', false, groups, names⟩) := by
  cases rest with
  | nil => rfl
  | cons c rest =>
    have other : ¬ (some c == some '{') = true := by simpa using unbraced
    change (ite ((some c == some '{') = true) _ _ : Parser Primitive) _ = _
    rw [if_neg other]
    rfl

variable (items branches itemsStart start position fuel groups names rest) in
theorem expression_token (token : Token) (unbraced : rest.head? ≠ some '{') :
    ∃ span next, expression items branches itemsStart start (fuel + 1)
        ⟨token.written ++ rest, position, false, groups, names⟩ =
      expression (token.ast span :: items) branches itemsStart start fuel
        ⟨rest, next, false, groups, names⟩ := by
  cases token with
  | boundary =>
    exact ⟨_, _, expression_primitive rfl (primitive_boundary unbraced)⟩
  | char c =>
    rw [Token.written]
    by_cases special : isMeta c = true
    · rw [if_pos special]
      exact ⟨_, _, expression_primitive rfl (primitive_escaped special)⟩
    · rw [if_neg special]
      rw [Bool.not_eq_true] at special
      have plain : isOperator c = false := by
        by_contra operator
        simp only [isOperator, List.contains_eq_mem, List.mem_cons, List.not_mem_nil, or_false,
          decide_eq_false_iff_not, not_not] at operator
        rcases operator with rfl | rfl | rfl | rfl | rfl | rfl | rfl | rfl <;> cases special
      exact ⟨_, _, expression_primitive plain (primitive_plain special)⟩

theorem head?_written (tokens : List Token) :
    (tokens.flatMap Token.written).head? ≠ some '{' := by
  cases tokens with
  | nil => simp
  | cons token later =>
    cases token with
    | boundary => simp [Token.written]
    | char c =>
      by_cases special : isMeta c = true
      · simp [Token.written, special]
      · rw [List.flatMap_cons, Token.written, if_neg special]
        intro same
        cases same
        exact special rfl

end

/-- Token by token, an expression reads what was written, to the end. -/
theorem expression_tokens (items : List Ast) (itemsStart start position : Position)
    (names : List (List Char × Span)) (groups : Nat) {fuel : Nat} (tokens : List Token)
    (enough : tokens.length < fuel) :
    ∃ asts span last, List.Forall₂ Token.Reads tokens asts ∧
      expression items [] itemsStart start fuel
          ⟨tokens.flatMap Token.written, position, false, groups, names⟩ =
        .ok (.ofItems span (items.reverse ++ asts), ⟨[], last, false, groups, names⟩) := by
  induction tokens generalizing items position fuel with
  | nil =>
    obtain ⟨fuel, rfl⟩ := Nat.exists_eq_add_of_lt enough
    refine ⟨[], ⟨itemsStart, position⟩, position, .nil, ?_⟩
    rw [List.append_nil]
    rfl
  | cons token later ih =>
    obtain ⟨fuel, rfl⟩ := Nat.exists_eq_add_of_lt (Nat.zero_lt_of_lt enough)
    rw [List.length_cons] at enough
    obtain ⟨tokenSpan, next, round⟩ := expression_token items [] itemsStart start position (0 + fuel)
      groups names (later.flatMap Token.written) token (head?_written later)
    obtain ⟨asts, span, last, reads, rest⟩ := ih (token.ast tokenSpan :: items) next
      (show later.length < 0 + fuel by omega)
    refine ⟨token.ast tokenSpan :: asts, span, last, .cons ⟨tokenSpan, rfl⟩ reads, ?_⟩
    rw [List.flatMap_cons, round, rest, List.reverse_cons, List.append_assoc, List.singleton_append]

end Parser

def Flags.start (ignoreCase : Bool) : Flags := ⟨ignoreCase, false, false, false, true, false⟩

namespace Token

variable {tokens : List Token} {asts : List Ast}

theorem tooDeep_ast (limit depth : Nat) (span : Span) (token : Token) :
    (token.ast span).tooDeep limit depth = none := by
  cases token <;> rfl

theorem anyTooDeep_of_reads (limit depth : Nat) (reads : List.Forall₂ Reads tokens asts) :
    Ast.anyTooDeep limit depth asts = none := by
  induction reads with
  | nil => rfl
  | cons read _ ih =>
    obtain ⟨span, rfl⟩ := read
    rw [Ast.anyTooDeep, tooDeep_ast, ih, Option.none_or]

theorem resolve_ast (ignoreCase : Bool) (span : Span) (token : Token) :
    (token.ast span).resolve (.start ignoreCase) =
      .ok (token.node ignoreCase, Flags.start ignoreCase) := by
  cases token with
  | boundary => rfl
  | char c => cases ignoreCase <;> rfl

theorem resolveAll_of_reads (ignoreCase : Bool) (reads : List.Forall₂ Reads tokens asts) :
    Ast.resolveAll (.start ignoreCase) asts =
      .ok (tokens.map (node ignoreCase), Flags.start ignoreCase) := by
  induction reads with
  | nil => rfl
  | cons read _ ih =>
    obtain ⟨span, rfl⟩ := read
    rw [Ast.resolveAll, resolve_ast]
    simp only [bind, Except.bind, ih]
    rfl

/-- Whether there is no token, one or more, they mean their nodes in sequence. -/
theorem resolve_ofItems (ignoreCase : Bool) (span : Span) (reads : List.Forall₂ Reads tokens asts) :
    (Ast.ofItems span asts).resolve (.start ignoreCase) =
      .ok (.sequence (tokens.map (node ignoreCase)), Flags.start ignoreCase) := by
  have all := resolveAll_of_reads ignoreCase reads
  cases reads with
  | nil => rfl
  | cons read later =>
    obtain ⟨first, rfl⟩ := read
    cases later with
    | nil => exact resolve_ast ignoreCase first _
    | cons _ _ =>
      change (Ast.concat span _).resolve _ = _
      rw [Ast.resolve]
      simp only [bind, Except.bind, all]
      rfl

theorem tooDeep_ofItems {limit : Nat} (positive : 0 < limit) (span : Span)
    (reads : List.Forall₂ Reads tokens asts) :
    (Ast.ofItems span asts).tooDeep limit 0 = none := by
  have all := anyTooDeep_of_reads limit 1 reads
  cases reads with
  | nil => rfl
  | cons read later =>
    obtain ⟨first, rfl⟩ := read
    cases later with
    | nil => exact tooDeep_ast limit 0 first _
    | cons _ _ =>
      change (Ast.concat span _).tooDeep _ _ = _
      rw [Ast.tooDeep, if_neg (by omega), all]

theorem length_le_written (tokens : List Token) :
    tokens.length ≤ (tokens.flatMap written).length := by
  induction tokens with
  | nil => simp
  | cons token later ih =>
    have nonempty : 0 < token.written.length := by
      cases token with
      | boundary => simp [written]
      | char c => rw [written]; split <;> simp
    rw [List.flatMap_cons, List.length_append, List.length_cons]
    omega

theorem parse_written (tokens : List Token) :
    ∃ asts span, List.Forall₂ Reads tokens asts ∧
      Ast.parse (tokens.flatMap written) = .ok (.ofItems span asts) := by
  obtain ⟨asts, span, last, reads, read⟩ := Parser.expression_tokens [] .start .start .start [] 0
    tokens (Nat.lt_succ_of_le (length_le_written tokens))
  refine ⟨asts, span, reads, ?_⟩
  have shallow := tooDeep_ofItems (show 0 < Parser.nestingLimit by decide) span reads
  rw [List.reverse_nil, List.nil_append] at read
  have whole : Parser.pattern ⟨tokens.flatMap written, .start, false, 0, []⟩ =
      .ok (.ofItems span asts, ⟨[], last, false, 0, []⟩) := by
    have left : Parser.remaining ⟨tokens.flatMap written, .start, false, 0, []⟩ =
      .ok ((tokens.flatMap written).length, ⟨tokens.flatMap written, .start, false, 0, []⟩) := rfl
    have done : Parser.atEnd ⟨[], last, false, 0, []⟩ = .ok (true, ⟨[], last, false, 0, []⟩) := rfl
    rw [Parser.pattern, Parser.bind_ok left, Parser.bind_ok read, Parser.bind_ok done]
    simp only [shallow]
    rfl
  rw [Ast.parse, StateT.run', whole]
  rfl

end Token

theorem Program.ofRegex_written (tokens : List Token) (ignoreCase : Bool) :
    Program.ofRegex (String.ofList (tokens.flatMap Token.written)) ignoreCase =
      Program.ofNodeWithin (.sequence (tokens.map (Token.node ignoreCase))) := by
  obtain ⟨asts, span, reads, parsed⟩ := Token.parse_written tokens
  have resolved := Token.resolve_ofItems ignoreCase span reads
  rw [Flags.start] at resolved
  rw [Program.ofRegex, String.toList_ofList, parsed]
  simp only [bind, Except.bind, resolved]
  rfl

/-- The space, the groups and the code of a node make its program. -/
theorem Program.ofNodeWithin_congr {a b : Node} (space : ∀ direction, a.space direction = b.space direction)
    (groups : a.groups = b.groups) (emit : a.emit 0 = b.emit 0) :
    Program.ofNodeWithin a = Program.ofNodeWithin b := by
  have fits : a.Fits ↔ b.Fits := by simp only [Node.Fits, space]
  have program : Program.ofNode a = Program.ofNode b := by
    rw [Program.ofNode, Program.ofNode, emit, groups]
  simp only [Program.ofNodeWithin, Program.ofNode?, fits, program]

theorem Token.single_node (ignoreCase : Bool) (token : Token) :
    (token.node ignoreCase).Single (token.inst ignoreCase) := by
  cases token <;> exact ⟨rfl, fun _ => rfl⟩

/-- Searching for a text is searching for the pattern that is written for it. -/
theorem Program.ofText_eq_ofRegex (text : String) (ignoreCase wholeWord : Bool) :
    Program.ofText text ignoreCase wholeWord =
      Program.ofRegex (escaped wholeWord text) ignoreCase := by
  rw [escaped, Program.ofRegex_written, Program.ofText]
  obtain ⟨groups, emit⟩ := Node.sequence_singles (Token.single_node ignoreCase)
    (tokensOf wholeWord text.toList)
  obtain ⟨groups', emit'⟩ := Node.sequence_sets (text.toList.map (.ofChar ignoreCase))
  rw [List.map_map, Function.comp_def] at groups' emit'
  refine Program.ofNodeWithin_congr (fun direction => ?_) ?_ ?_
  · rw [Node.space_ofText, Node.space_sequence]
    cases wholeWord with
    | false => simp [tokensOf, Token.node, Node.space, Function.comp_def]
    | true =>
      simp [tokensOf, Token.node, Node.space, Function.comp_def]
      omega
  · rw [groups]
    cases wholeWord <;> simp [Node.ofText, Node.sequence, Node.groups, groups']
  · rw [emit]
    cases wholeWord <;>
      simp [tokensOf, Token.inst, Node.ofText, Node.sequence, Node.emit, emit']

example : escaped true "a.b" = "\\ba\\.b\\b" := by
  decide +kernel

end StoryScript.Pattern
