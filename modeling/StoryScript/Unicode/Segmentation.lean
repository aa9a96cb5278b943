import StoryScript.Unicode.Property
import StoryScript.Unicode.Script

/-! Where text may be broken: the classes of characters that the rules for grapheme clusters, words
and sentences tell apart. A class is named by its normalised names; characters in none of the
classes of a kind have no class of that kind. -/
namespace StoryScript.Unicode

/-- The classes of one kind of break. -/
abbrev BreakClasses := List (List String × CharSet)

def carriageReturn : CharSet := .only '\r'
def lineFeed : CharSet := .only '\n'
def joiner : CharSet := .only '\u200D'
def regionalIndicator : CharSet := .ofText "1F1E6-1F1FF"
def emojiModifier : CharSet := .ofText "1F3FB-1F3FF"
def spacingMark : CharSet := ofCategory (· == .spacingMark)
def format : CharSet := ofCategory (· == .format)

/-! Hangul syllables stand in the order of their letters, and every 28th has no final one. -/

def hangulSyllables : CharSet := .range '\uAC00' '\uD7A3'

def hangulWithoutFinal : CodePoints where
  runs := ((List.range 399).flatMap fun place =>
    [(0xAC00 + 28 * place, true), (0xAC00 + 28 * place + 1, false)]).toArray

def clusterExtend : CharSet := .union graphemeExtend emojiModifier

/-- Letters written before the one that they follow in speech, and signs that enclose digits. -/
def clusterPrepend : CharSet :=
  .union prependedConcatenationMark
    (.ofText "D4E 111C2-111C3 113D1 1193F 11941 11A84-11A89 11D46 11F02")

def clusterControl : CharSet :=
  .diff
    (.union
      (ofCategory fun category => category == .lineSeparator || category == .paragraphSeparator ||
        category == .control || category == .format)
      (.inter (ofCategory (· == .unassigned)) defaultIgnorable))
    (.anyOf [carriageReturn, lineFeed, .range '\u200C' '\u200D', clusterPrepend, clusterExtend])

def clusterSpacingMark : CharSet :=
  .diff (.union spacingMark (.ofText "E33 EB3"))
    (.union clusterExtend (.ofText "
102B-102C 1038 1062-1064 1067-106D 1083 1087-108C 108F 109A-109C 1A61 1A63-1A64 AA7B AA7D
11720-11721
"))

def clusterBreaks : BreakClasses := [
  (["cn", "control"], clusterControl),
  (["cr"], carriageReturn),
  (["ex", "extend"], clusterExtend),
  (["l"], .ofText "1100-115F A960-A97C"),
  (["lf"], lineFeed),
  (["lv"], .listed hangulWithoutFinal),
  (["lvt"], .diff hangulSyllables (.listed hangulWithoutFinal)),
  (["pp", "prepend"], clusterPrepend),
  (["ri", "regionalindicator"], regionalIndicator),
  (["sm", "spacingmark"], clusterSpacingMark),
  (["t"], .ofText "11A8-11FF D7CB-D7FB"),
  (["v"], .ofText "1160-11A7 D7B0-D7C6 16D63 16D67-16D6A"),
  (["zwj"], joiner)]

def wordExtend : CharSet := .anyOf [graphemeExtend, spacingMark, emojiModifier]

/-- The letters of scripts that are written without spaces between words. -/
def unspacedLetters : CharSet := .ofText "
E01-E30 E32-E33 E40-E46 E81-E82 E84 E86-E8A E8C-EA3 EA5 EA7-EB0 EB2-EB3 EBD EC0-EC4 EC6 EDC-EDF
1000-102A 103F 1050-1055 105A-105D 1061 1065-1066 106E-1070 1075-1081 108E 1780-17B3 17D7 17DC
1950-196D 1970-1974 1980-19AB 19B0-19C9 1A20-1A54 1AA7 A9E0-A9E4 A9E6-A9EF A9FA-A9FE AA60-AA76 AA7A
AA7E-AAAF AAB1 AAB5-AAB6 AAB9-AABD AAC0 AAC2 AADB-AADD 11700-1171A 11740-11746
"

/-- Signs that are part of words although they are not alphabetic. -/
def letterSigns : CharSet := .ofText "
B8 2C2-2C5 2D2-2D7 2DE-2DF 2E5-2EB 2ED 2EF-2FF 55A-55C 55E 58A 5F3 70F A708-A716 A720-A721
A789-A78A AB5B
"

def katakana : CharSet :=
  .union (Script.members "Kana".toList)
    (.ofText "3031-3035 309B-309C 30A0 30FC FF70")

def hebrewLetter : CharSet :=
  .inter (Script.members "Hebr".toList) (ofCategory (· == .otherLetter))

def wordLetter : CharSet :=
  .diff (.union alphabetic letterSigns)
    (.anyOf [ideographic, katakana, unspacedLetters,
      Script.members "Hira".toList, wordExtend, hebrewLetter])

/-- Digits, and the signs that stand around a number in Arabic and related scripts. -/
def numeric : CharSet :=
  .anyOf [ofCategory (· == .decimalNumber), .only '\u066B',
    .diff prependedConcatenationMark (.only '\u070F')]

def wordBreaks : BreakClasses := [
  (["le", "aletter"], wordLetter),
  (["cr"], carriageReturn),
  (["dq", "doublequote"], .only '\x22'),
  (["extend"], wordExtend),
  (["ex", "extendnumlet"], .union (ofCategory (· == .connector)) (.only '\u202F')),
  (["fo", "format"],
    .diff format (.anyOf [.range '\u200B' '\u200D', clusterPrepend, wordExtend])),
  (["hl", "hebrewletter"], hebrewLetter),
  (["ka", "katakana"], katakana),
  (["lf"], lineFeed),
  (["ml", "midletter"], .ofText "3A B7 387 55F 5F4 2027 FE13 FE55 FF1A"),
  (["mn", "midnum"], .ofText "
2C 3B 37E 589 60C-60D 66C 7F8 2044 FE10 FE14 FE50 FE54 FF0C FF1B
"),
  (["mb", "midnumlet"], .ofText "2E 2018-2019 2024 FE52 FF07 FF0E"),
  (["nl", "newline"], .ofText "B-C 85 2028-2029"),
  (["nu", "numeric"], numeric),
  (["ri", "regionalindicator"], regionalIndicator),
  (["sq", "singlequote"], .only '\x27'),
  (["wsegspace"], .diff (ofCategory (· == .spaceSeparator)) (.ofText "A0 2007 202F")),
  (["zwj"], joiner)]

def sentenceExtend : CharSet := .anyOf [graphemeExtend, joiner, spacingMark]
def sentenceSeparator : CharSet := .ofText "85 2028-2029"
def sentenceStop : CharSet := .ofText "2E 2024 FE52 FF0E"

def sentenceLower : CharSet :=
  .diff lowercase (.union graphemeExtend (.ofText "10D0-10FA 10FD-10FF"))

def sentenceUpper : CharSet :=
  .diff (.union uppercase titlecase) (.ofText "1C90-1CBA 1CBD-1CBF")

/-- Quotation marks that are not brackets by category. -/
def plainQuotes : CharSet := .ofText "22 27 275B-2760 2E00-2E01 2E06-2E08 2E0B 1F676-1F678"

def sentenceBreaks : BreakClasses := [
  (["at", "aterm"], sentenceStop),
  (["cl", "close"],
    .union plainQuotes
      (ofCategory fun category => category == .opening || category == .closing ||
        category == .initialQuote || category == .finalQuote)),
  (["cr"], carriageReturn),
  (["ex", "extend"], sentenceExtend),
  (["fo", "format"], .diff format (.anyOf [.range '\u200C' '\u200D', numeric, sentenceExtend])),
  (["lf"], lineFeed),
  (["lo", "lower"], sentenceLower),
  (["nu", "numeric"], .union numeric (.only '\u066C')),
  (["le", "oletter"],
    .diff (.union alphabetic (.only '\u05F3'))
      (.anyOf [sentenceLower, sentenceUpper, sentenceExtend])),
  (["sc", "scontinue"], .ofText "
2C-2D 3A-3B 37E 55D 60C-60D 7F8 1802 1808 2013-2014 3001 FE10-FE11 FE13-FE14 FE31-FE32 FE50-FE51
FE54-FE55 FE58 FE63 FF0C-FF0D FF1A-FF1B FF64
"),
  (["se", "sep"], sentenceSeparator),
  (["sp"], .diff whiteSpace (.anyOf [sentenceSeparator, carriageReturn, lineFeed])),
  (["st", "sterm"], .diff sentenceTerminal sentenceStop),
  (["up", "upper"], sentenceUpper)]

end StoryScript.Unicode
