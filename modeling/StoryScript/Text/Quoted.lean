import StoryScript.Unicode.Property

/-! Texts in quotes for messages: whatever would not show, or could be taken for a quote, is
escaped. -/
namespace StoryScript.Text

/-- Characters with a shape of their own; of the separators only the space. -/
def isShown (c : Char) : Bool :=
  let category := Unicode.Category.of c
  c == ' ' ||
    !(category.isSeparator || category.isOther || Unicode.isGraphemeExtend c)

/-- The code of a character in braces. -/
def codeEscape (c : Char) : List Char :=
  ['\\', 'u', '\x7b'] ++ Nat.toDigits 16 c.toNat ++ ['\x7d']

def quotedChar (c : Char) : List Char :=
  if c = '\x00' then ['\\', '0']
  else if c = '\t' then ['\\', 't']
  else if c = '\r' then ['\\', 'r']
  else if c = '\n' then ['\\', 'n']
  else if c = '"' ∨ c = '\\' ∨ c = '\x27' then ['\\', c]
  else if isShown c then [c]
  else codeEscape c

def quoted (text : String) : String :=
  String.ofList ('"' :: text.toList.flatMap quotedChar ++ ['"'])

end StoryScript.Text
