import StoryScript.Unicode.Property

/-! Display width of text in columns of a terminal: wide characters take two columns, marks and
ignorable characters none, and an emoji sequence as much as one emoji. -/
namespace StoryScript.Text

open Unicode

def wideCharacters : CharSet := .ofText "
1100-115F 231A-231B 2329-232A 23E9-23EC 23F0 23F3 25FD-25FE 2614-2615 2630-2637 2648-2653 267F
268A-268F 2693 26A1 26AA-26AB 26BD-26BE 26C4-26C5 26CE 26D4 26EA 26F2-26F3 26F5 26FA 26FD 2705
270A-270B 2728 274C 274E 2753-2755 2757 2795-2797 27B0 27BF 2B1B-2B1C 2B50 2B55 2E80-2E99
2E9B-2EF3 2F00-2FD5 2FF0-2FFB 3000-303E 3041-3096 3099-30FF 3105-312F 3131-318E 3190-31E3
31F0-321E 3220-3247 3250-A48C A490-A4C6 A960-A97C AC00-D7A3 F900-FAFF FE10-FE19 FE30-FE52
FE54-FE66 FE68-FE6B FF01-FF60 FFE0-FFE6 16FE0-16FE4 16FF0-16FF1 17000-187F7 18800-18CD5
18D00-18D08 1AFF0-1AFF3 1AFF5-1AFFB 1AFFD-1AFFE 1B000-1B122 1B132 1B150-1B152 1B155 1B164-1B167
1B170-1B2FB 1F004 1F0CF 1F18E 1F191-1F19A 1F200-1F202 1F210-1F23B 1F240-1F248 1F250-1F251
1F260-1F265 1F300-1F320 1F32D-1F335 1F337-1F37C 1F37E-1F393 1F3A0-1F3CA 1F3CF-1F3D3 1F3E0-1F3F0
1F3F4 1F3F8-1F43E 1F440 1F442-1F4FC 1F4FF-1F53D 1F54B-1F54E 1F550-1F567 1F57A 1F595-1F596 1F5A4
1F5FB-1F64F 1F680-1F6C5 1F6CC 1F6D0-1F6D2 1F6D5-1F6D8 1F6DC-1F6DF 1F6EB-1F6EC 1F6F4-1F6FC
1F7E0-1F7EB 1F7F0 1F90C-1F93A 1F93C-1F945 1F947-1F9FF 1FA70-1FA7C 1FA80-1FA8A 1FA8E-1FAC6 1FAC8
1FACD-1FADC 1FADF-1FAEA 1FAEF-1FAF8 20000-2FFFD 30000-3FFFD
"

/-- Vowel and final jamo, which join the syllable before them. -/
def isJoiningJamo (n : Nat) : Bool :=
  (0x1160 ≤ n && n ≤ 0x11FF) || (0xD7B0 ≤ n && n ≤ 0xD7C6) || (0xD7CB ≤ n && n ≤ 0xD7FB) ||
    n == 0x16D63 || (0x16D67 ≤ n && n ≤ 0x16D6A)

/-- Signs without a column of their own that no property names. -/
def isSignWithoutWidth (n : Nat) : Bool :=
  [0x605, 0x70F, 0x890, 0x891, 0x8E2, 0xCC0, 0xCC7, 0xCC8, 0xCCA, 0xCCB, 0x1B3B, 0x1B3D, 0x1B43,
    0xA8FA].contains n

/-- The columns of a character by itself; control characters take one. -/
def charWidth (c : Char) : Nat :=
  let n := c.toNat
  if n < 0xA0 then 1
  else if n == 0x2D7F then 1
  else if n == 0x115F || n == 0x17A4 then 2
  else if n == 0x17D8 then 3
  else if defaultIgnorable.mem c || isGraphemeExtend c || isJoiningJamo n ||
      isSignWithoutWidth n then 0
  else if wideCharacters.mem c then 2
  else 1

def isEmojiModifier (c : Char) : Bool := 0x1F3FB ≤ c.toNat && c.toNat ≤ 0x1F3FF

def textSelector : Char := Char.ofNat 0xFE0E
def emojiSelector : Char := Char.ofNat 0xFE0F
def joiner : Char := Char.ofNat 0x200D

/-- What the characters read so far allow the next one to join. -/
inductive Joining where
  /-- Nothing to join. -/
  | none
  /-- After a character of the given width that a selector or a modifier may change. -/
  | character (c : Char)
  /-- After a complete emoji. -/
  | emoji
  /-- After an emoji and a joiner. -/
  | joined

/-- One character: the columns it adds, possibly negative, and what it leaves to join. -/
def stepWidth (state : Joining) (c : Char) : Int × Joining :=
  let alone : Int × Joining := (charWidth c, .character c)
  match state with
  | .none => alone
  | .character before =>
    if c == emojiSelector && emoji.mem before then (2 - (charWidth before : Int), .emoji)
    else if c == textSelector && emojiPresentation.mem before &&
        !(0x1F200 ≤ before.toNat && before.toNat ≤ 0x1F2FF) then
      (1 - (charWidth before : Int), .none)
    else if isEmojiModifier c && emojiModifierBase.mem before then
      (2 - (charWidth before : Int), .emoji)
    else if c == joiner && emojiPresentation.mem before then (0, .joined)
    else if before == '\r' && c == '\n' then (0, .none)
    else alone
  | .emoji =>
    if c == joiner then (0, .joined)
    else if isEmojiModifier c then (0, .emoji)
    else alone
  | .joined =>
    if emojiPresentation.mem c then (0, .emoji)
    else if emoji.mem c && charWidth c == 1 then (0, .emoji)
    else alone

def displayWidth (text : List Char) : Nat :=
  (text.foldl (fun (width, state) c =>
    let (columns, state) := stepWidth state c
    (width + columns, state)) ((0 : Int), Joining.none)).1.toNat

end StoryScript.Text
