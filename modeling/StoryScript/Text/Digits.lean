/-! Digits, and the numbers and characters that they write. -/
namespace StoryScript.Text

def isDigit (c : Char) : Bool := '0' ≤ c && c ≤ '9'

/-- The value of a digit of a base up to 16. -/
def digitValue? (c : Char) : Option Nat :=
  if '0' ≤ c ∧ c ≤ '9' then some (c.toNat - '0'.toNat)
  else if 'A' ≤ c ∧ c ≤ 'F' then some (c.toNat - 'A'.toNat + 10)
  else if 'a' ≤ c ∧ c ≤ 'f' then some (c.toNat - 'a'.toNat + 10)
  else none

theorem isDigit_eq (c : Char) : isDigit c = c.isDigit := by
  rw [isDigit, Char.isDigit]
  rfl

theorem digitValue?_of_isDigit {c : Char} (digit : c.isDigit = true) :
    digitValue? c = some (c.toNat - '0'.toNat) := by
  rw [← isDigit_eq, isDigit, Bool.and_eq_true, decide_eq_true_eq, decide_eq_true_eq] at digit
  exact if_pos digit

def isHexDigit (c : Char) : Bool := (digitValue? c).isSome

/-- The number that digits write in a base; other characters are passed over. -/
def valueIn (base : Nat) (digits : List Char) : Nat :=
  digits.foldl (fun n c => match digitValue? c with
    | some digit => base * n + digit
    | none => n) 0

/-- The character whose code hexadecimal digits write, unless it is a surrogate or too large. -/
def charOfHex? (digits : List Char) : Option Char :=
  let code := valueIn 16 digits
  if code < 0xD800 ∨ (0xDFFF < code ∧ code < 0x110000) then some (Char.ofNat code) else none

end StoryScript.Text
