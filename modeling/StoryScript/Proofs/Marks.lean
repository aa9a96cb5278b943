import StoryScript.Script.Marks

/-! The readers of marks on text that is put together from known parts. A name is read back from any
text that goes on with something else, and every name that a reader gives is one. -/
namespace StoryScript

namespace Unicode

theorem isAsciiWord_iff_toNat {c : Char} : isAsciiWord c ↔
    48 ≤ c.toNat ∧ c.toNat ≤ 57 ∨ 65 ≤ c.toNat ∧ c.toNat ≤ 90 ∨ 97 ≤ c.toNat ∧ c.toNat ≤ 122 ∨
      c.toNat = 95 := by
  have bound (a b : Char) : a ≤ b ↔ a.toNat ≤ b.toNat := Iff.rfl
  have same : c = '_' ↔ c.toNat = 95 := Char.toNat_inj.symm
  simp only [isAsciiWord, Bool.or_eq_true, Bool.and_eq_true, decide_eq_true_eq, beq_iff_eq, bound,
    same, or_assoc]
  rfl

theorem isWhite_of_isAsciiWord {c : Char} (word : isAsciiWord c) : isWhite c = false := by
  rw [isAsciiWord_iff_toNat] at word
  simp only [isWhite, Bool.or_eq_false_iff, Bool.and_eq_false_iff, decide_eq_false_iff_not,
    beq_eq_false_iff_ne]
  omega

theorem isWord_of_isWhite {c : Char} (white : isWhite c) : isWord c = false := by
  unfold isWord
  split
  · exact Bool.eq_false_iff.mpr fun word => by simp [isWhite_of_isAsciiWord word] at white
  · rfl

end Unicode

namespace Script

def Blank (text : List Char) : Prop := ∀ c ∈ text, Unicode.isWhite c

/-- A name: a letter or an underscore, and then letters, digits and underscores. -/
def IsName : List Char → Prop
  | [] => False
  | c :: rest => isNameStart c ∧ ∀ d ∈ rest, isNameChar d

def NameEnds : List Char → Prop
  | [] => True
  | c :: _ => isNameChar c = false

theorem isNameChar_eq (c : Char) : isNameChar c = Unicode.isAsciiWord c := by
  simp only [isNameChar, isNameStart, Unicode.isAsciiWord]
  ac_rfl

theorem isWhite_of_isNameChar {c : Char} (inName : isNameChar c) : Unicode.isWhite c = false :=
  Unicode.isWhite_of_isAsciiWord (isNameChar_eq c ▸ inName)

theorem isNameChar_of_isNameStart {c : Char} (starts : isNameStart c) : isNameChar c := by
  simp [isNameChar, starts]

theorem Blank.notMem {white : List Char} (blank : Blank white) {c : Char}
    (visible : Unicode.isWhite c = false) : c ∉ white :=
  fun member => by simp [blank c member] at visible

theorem skipWhite_append {white : List Char} (blank : Blank white) (text : List Char) :
    skipWhite (white ++ text) = skipWhite text :=
  List.dropWhile_append_of_pos blank

theorem Blank.skipWhite_eq_nil {white : List Char} (blank : Blank white) : skipWhite white = [] := by
  have empty : skipWhite [] = [] := rfl
  simpa [empty] using skipWhite_append blank []

theorem exists_blank_append_skipWhite (text : List Char) :
    ∃ white, Blank white ∧ text = white ++ skipWhite text :=
  ⟨text.takeWhile Unicode.isWhite, List.all_eq_true.mp List.all_takeWhile,
    List.takeWhile_append_dropWhile.symm⟩

theorem skipWhite_cons {c : Char} (visible : Unicode.isWhite c = false) (text : List Char) :
    skipWhite (c :: text) = c :: text := by
  simp [skipWhite, visible]

theorem NameEnds.append {text tail : List Char} (ends : NameEnds text) (after : NameEnds tail) :
    NameEnds (text ++ tail) := by
  cases text with
  | nil => exact after
  | cons c text => exact ends

theorem Blank.nameEnds {white : List Char} (blank : Blank white) : NameEnds white := by
  cases white with
  | nil => trivial
  | cons c white =>
    refine Bool.eq_false_iff.mpr fun inName => ?_
    have visible := isWhite_of_isNameChar inName
    simp [blank c List.mem_cons_self] at visible

theorem afterWord?_eq_some_iff {word text rest : List Char} :
    afterWord? word text = some rest ↔ text = word ++ rest := by
  fun_induction afterWord? word text <;> simp_all [eq_comm]

theorem afterWhite?_append {white : List Char} (blank : Blank white) (some_white : white ≠ [])
    (text : List Char) : afterWhite? (white ++ text) = some (skipWhite text) := by
  cases white with
  | nil => exact absurd rfl some_white
  | cons c white =>
    have ⟨first, others⟩ := List.forall_mem_cons.mp blank
    simp [afterWhite?, first, skipWhite_append others]

namespace IsName

variable {name : List Char}

theorem forall_isNameChar (isName : IsName name) : ∀ c ∈ name, isNameChar c := by
  cases name with
  | nil => simp
  | cons first rest =>
    exact List.forall_mem_cons.mpr ⟨isNameChar_of_isNameStart isName.1, isName.2⟩

theorem notMem (isName : IsName name) {c : Char} (other : isNameChar c = false) : c ∉ name :=
  fun member => by simp [isName.forall_isNameChar c member] at other

theorem skipWhite_append (isName : IsName name) (text : List Char) :
    skipWhite (name ++ text) = name ++ text := by
  cases name with
  | nil => exact isName.elim
  | cons first rest =>
    exact skipWhite_cons (isWhite_of_isNameChar (isNameChar_of_isNameStart isName.1)) _

end IsName

/-- A name is read where the text is that name and a rest that does not go on with it. -/
theorem name?_eq_some_iff {text name rest : List Char} :
    name? text = some (name, rest) ↔ text = name ++ rest ∧ IsName name ∧ NameEnds rest := by
  constructor
  · intro found
    cases text with
    | nil => simp [name?] at found
    | cons c text =>
      simp only [name?, Option.ite_none_right_eq_some, Option.some.injEq, Prod.mk.injEq] at found
      obtain ⟨starts, rfl, rfl⟩ := found
      refine ⟨by simp, ⟨starts, fun d member => ?_⟩, ?_⟩
      · exact List.all_eq_true.mp List.all_takeWhile d member
      · have stops := List.head?_dropWhile_not isNameChar text
        cases dropped : text.dropWhile isNameChar with
        | nil => trivial
        | cons d rest => simpa [dropped, NameEnds] using stops
  · rintro ⟨rfl, isName, ends⟩
    cases name with
    | nil => exact isName.elim
    | cons c name =>
      have dropped : rest.takeWhile isNameChar = [] ∧ rest.dropWhile isNameChar = rest := by
        cases rest with
        | nil => simp
        | cons d rest => simp [show isNameChar d = false from ends]
      simp [name?, isName.1, List.takeWhile_append_of_pos isName.2,
        List.dropWhile_append_of_pos isName.2, dropped]

@[simp] theorem columnOf_append (before rest : List Char) :
    columnOf (before ++ rest) rest = before.length + 1 := by
  simp [columnOf]

theorem markAt?_append (before : List Char) {name rest : List Char} (isName : IsName name)
    (ends : NameEnds rest) : markAt? (before ++ (name ++ rest)) (name ++ rest) =
      some ⟨String.ofList name, before.length + 1⟩ := by
  simp [markAt?, name?_eq_some_iff.mpr ⟨rfl, isName, ends⟩]

/-! Every reader gives names. -/

theorem isName_of_markAt? {line rest : List Char} {mark : Mark}
    (found : markAt? line rest = some mark) : IsName mark.name.toList := by
  simp only [markAt?, Option.map_eq_some_iff] at found
  obtain ⟨⟨name, after⟩, named, rfl⟩ := found
  simpa using (name?_eq_some_iff.mp named).2.1

theorem isName_of_choiceTarget? {line : String} {mark : Mark}
    (found : choiceTarget? line = some mark) : IsName mark.name.toList := by
  simp only [choiceTarget?, Option.ite_none_right_eq_some, Option.bind_eq_some_iff] at found
  obtain ⟨-, rest, -, found⟩ := found
  exact isName_of_markAt? found

/-- A marker is a name with white space around it, up to the closing brace. -/
theorem marker?_eq_some_iff {text name after : List Char} :
    marker? text = some (name, after) ↔ ∃ white white', Blank white ∧ Blank white' ∧ IsName name ∧
      text = white ++ (name ++ (white' ++ '}' :: after)) := by
  constructor
  · intro found
    unfold marker? at found
    split at found
    · rename_i name' rest named
      split at found
      · rename_i after' closing
        cases found
        obtain ⟨start, isName, -⟩ := name?_eq_some_iff.mp named
        obtain ⟨white, blank, whole⟩ := exists_blank_append_skipWhite text
        obtain ⟨white', blank', behind⟩ := exists_blank_append_skipWhite rest
        rw [closing] at behind
        exact ⟨white, white', blank, blank', isName, by rw [whole, start, behind]⟩
      · cases found
    · cases found
  · rintro ⟨white, white', blank, blank', isName, rfl⟩
    have ends : NameEnds (white' ++ '}' :: after) := blank'.nameEnds.append rfl
    have named := name?_eq_some_iff.mpr ⟨rfl, isName, ends⟩
    have closing : skipWhite (white' ++ '}' :: after) = '}' :: after := by
      rw [skipWhite_append blank', skipWhite_cons rfl]
    simp [marker?, skipWhite_append blank, isName.skipWhite_append, named, closing]

theorem isName_of_marker? {text name rest : List Char} (found : marker? text = some (name, rest)) :
    IsName name := by
  obtain ⟨_, _, -, -, isName, -⟩ := marker?_eq_some_iff.mp found
  exact isName

theorem isName_of_mem_interpolations {line : String} {mark : Mark}
    (shown : mark ∈ interpolations line) : IsName mark.name.toList := by
  unfold interpolations at shown
  generalize line.toList = text at shown
  have all (rest : List Char) : mark ∈ interpolationsFrom text rest → IsName mark.name.toList := by
    fun_induction interpolationsFrom text rest with
    | case1 => simp
    | case2 c rest name after _ found _ ih =>
      rw [List.mem_cons]
      rintro (rfl | later)
      · simpa using isName_of_marker? found
      · exact ih later
    | case3 c rest _ ih => exact ih
  exact all text shown

/-! Text without braces and quotes is passed over. -/

theorem interpolationsFrom_append (line : List Char) {front : List Char} (noBrace : '{' ∉ front)
    (tail : List Char) :
    interpolationsFrom line (front ++ tail) = interpolationsFrom line tail := by
  induction front with
  | nil => rfl
  | cons c front ih =>
    rw [List.mem_cons, not_or] at noBrace
    rw [List.cons_append, interpolationsFrom]
    split
    · rename_i found
      simp [Ne.symm noBrace.1] at found
    · exact ih noBrace.2

/-- No marker opens inside another one, so that nothing is missed behind its opening brace. -/
theorem interpolationsFrom_of_marker? (line : List Char) {text name after : List Char}
    (found : marker? text = some (name, after)) :
    interpolationsFrom line text = interpolationsFrom line after := by
  obtain ⟨white, white', blank, blank', isName, rfl⟩ := marker?_eq_some_iff.mp found
  have noBrace : '{' ∉ white ++ (name ++ (white' ++ ['}'])) := by
    simp [blank.notMem (show Unicode.isWhite '{' = false from rfl),
      blank'.notMem (show Unicode.isWhite '{' = false from rfl),
      isName.notMem (show isNameChar '{' = false from rfl)]
  simpa using interpolationsFrom_append line noBrace after

theorem interpolationsFrom_cons (line : List Char) (c : Char) (rest : List Char) :
    interpolationsFrom line (c :: rest) =
      match if c = '{' then marker? rest else none with
      | some (name, _) =>
        ⟨String.ofList name, columnOf line (skipWhite rest)⟩ :: interpolationsFrom line rest
      | none => interpolationsFrom line rest := by
  rw [interpolationsFrom]
  split
  · rename_i found
    have same := interpolationsFrom_of_marker? line (Option.ite_none_right_eq_some.mp found).2
    simp only [found, same]
  · rename_i found
    simp only [found]

theorem removeStrings_append {front : List Char} (noQuote : '"' ∉ front) (tail : List Char) :
    removeStrings (front ++ tail) = front ++ removeStrings tail := by
  induction front with
  | nil => rfl
  | cons c front ih =>
    rw [List.mem_cons, not_or] at noQuote
    rw [List.cons_append, removeStrings]
    split
    · rename_i found
      simp [Ne.symm noQuote.1] at found
    · rw [ih noQuote.2, List.cons_append]

theorem removeStrings_of_afterString? {text after : List Char}
    (found : afterString? text = some after) :
    removeStrings ('"' :: text) = removeStrings after := by
  rw [removeStrings]
  split
  · rename_i same
    rw [if_pos rfl, found] at same
    cases same
    rfl
  · rename_i same
    rw [if_pos rfl, found] at same
    cases same

theorem removeMarkers_append {front : List Char} (noBrace : '{' ∉ front) (tail : List Char) :
    removeMarkers (front ++ tail) = front ++ removeMarkers tail := by
  induction front with
  | nil => rfl
  | cons c front ih =>
    rw [List.mem_cons, not_or] at noBrace
    rw [List.cons_append, removeMarkers]
    split
    · rename_i found
      simp [Ne.symm noBrace.1] at found
    · rw [ih noBrace.2, List.cons_append]

end Script

end StoryScript
