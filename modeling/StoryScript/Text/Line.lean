import StoryScript.Unicode.Property

/-! Sources as lines. A line ends with a newline, possibly after a carriage return; neither is part of
its text. Columns count characters from 1, offsets count UTF-8 bytes from 0. -/
namespace StoryScript

structure Line where
  number : Nat
  offset : Nat
  text : String
  deriving DecidableEq, Repr

namespace Text

def byteLength : List Char → Nat
  | [] => 0
  | c :: rest => c.utf8Size + byteLength rest

@[simp] theorem byteLength_append (a b : List Char) :
    byteLength (a ++ b) = byteLength a + byteLength b := by
  induction a with
  | nil => simp [byteLength]
  | cons c rest ih => simp [byteLength, ih]; omega

/-- A text cut after each of its newlines. -/
def pieces : List Char → List (List Char)
  | [] => []
  | c :: rest =>
    if c = '\n' then [c] :: pieces rest
    else match pieces rest with
      | [] => [[c]]
      | piece :: others => (c :: piece) :: others

/-- The characters without a given one at their end. -/
def dropFinal (final : Char) (text : List Char) : List Char :=
  if text.getLast? = some final then text.dropLast else text

/-- A piece without its newline and then without one carriage return at its end. -/
def body (piece : List Char) : List Char := dropFinal '\r' (dropFinal '\n' piece)

/-- Numbers pieces from `number` on, the first of them starting at byte `offset`. -/
def numberPieces (number offset : Nat) : List (List Char) → List Line
  | [] => []
  | piece :: rest =>
    ⟨number, offset, String.ofList (body piece)⟩ ::
      numberPieces (number + 1) (offset + byteLength piece) rest

/-- The lines of a source. A final newline starts no further line. -/
def lines (source : String) : List Line := numberPieces 1 0 (pieces source.toList)

def line? (source : String) (number : Nat) : Option Line :=
  if number = 0 then none else (lines source)[number - 1]?

/-- The number of bytes that the first `count` characters take. -/
def bytesOfChars : List Char → Nat → Option Nat
  | _, 0 => some 0
  | [], _ + 1 => none
  | c :: rest, count + 1 => (bytesOfChars rest count).map (c.utf8Size + ·)

/-- The byte offset of a column; the column after the last character is the line's end. -/
def byteOfColumn (line : String) (column : Nat) : Option Nat :=
  if column = 0 then none else bytesOfChars line.toList (column - 1)

def charsBefore : List Char → Nat → Nat
  | [], _ => 0
  | _, 0 => 0
  | c :: rest, bytes => charsBefore rest (bytes - c.utf8Size) + 1

def columnOfByte (line : String) (byte : Nat) : Nat := charsBefore line.toList byte + 1

/-- The characters that start before a byte offset. -/
def takeBytes : List Char → Nat → List Char
  | [], _ => []
  | _, 0 => []
  | c :: rest, bytes => c :: takeBytes rest (bytes - c.utf8Size)

/-- The characters that start at or after a byte offset. -/
def dropBytes : List Char → Nat → List Char
  | [], _ => []
  | text, 0 => text
  | c :: rest, bytes => dropBytes rest (bytes - c.utf8Size)

def isBlank (text : String) : Bool := text.toList.all Unicode.isWhite

def trim (text : String) : String :=
  let start := text.toList.dropWhile Unicode.isWhite
  String.ofList (start.reverse.dropWhile Unicode.isWhite).reverse

end Text

end StoryScript
