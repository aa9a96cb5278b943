import StoryScript.Unicode.Age
import StoryScript.Unicode.Segmentation

/-! Properties by name. A single name stands for a property that a character has or has not, for a
general category or for a script; a name with a value stands for the characters with that value.
Names are compared in a normalised form. -/
namespace StoryScript.Unicode

/-- Properties that a character has or has not, each under its normalised names. -/
def binaryProperties : List (List String × CharSet) := [
  (["ahex", "asciihexdigit"], .inter hexDigits ascii),
  (["alpha", "alphabetic"], alphabetic),
  (["bidic", "bidicontrol"], bidiControl),
  (["bidim", "bidimirrored"], bidiMirrored),
  (["cased"], .anyOf [lowercase, uppercase, titlecase]),
  (["ci", "caseignorable"], caseIgnorable),
  (["cwcf", "changeswhencasefolded"], foldable),
  (["cwcm", "changeswhencasemapped"], .anyOf [lowercasable, uppercasable, titlecasable]),
  (["cwl", "changeswhenlowercased"], lowercasable),
  (["cwt", "changeswhentitlecased"], titlecasable),
  (["cwu", "changeswhenuppercased"], uppercasable),
  (["dash"], dashes),
  (["di", "defaultignorablecodepoint"], defaultIgnorable),
  (["dep", "deprecated"], deprecated),
  (["dia", "diacritic"], diacritic),
  (["emoji"], emoji),
  (["ecomp", "emojicomponent"], emojiComponent),
  (["emod", "emojimodifier"], emojiModifier),
  (["ebase", "emojimodifierbase"], emojiModifierBase),
  (["epres", "emojipresentation"], emojiPresentation),
  (["extpict", "extendedpictographic"], extendedPictographic),
  (["ext", "extender"], extender),
  (["grbase", "graphemebase"], graphemeBase),
  (["grext", "graphemeextend"], graphemeExtend),
  (["grlink", "graphemelink"], viramas),
  (["hex", "hexdigit"], hexDigits),
  (["hyphen"], hyphens),
  (["idsb", "idsbinaryoperator"], idsBinaryOperator),
  (["idst", "idstrinaryoperator"], .range '\u2FF2' '\u2FF3'),
  (["idsu", "idsunaryoperator"], .range '\u2FFE' '\u2FFF'),
  (["idcompatmathcontinue"], .union mathIdStart mathIdDigits),
  (["idcompatmathstart"], mathIdStart),
  (["idc", "idcontinue"], idContinue),
  (["ids", "idstart"], idStart),
  (["ideo", "ideographic"], ideographic),
  (["joinc", "joincontrol"], .range '\u200C' '\u200D'),
  (["loe", "logicalorderexception"], logicalOrderException),
  (["lower", "lowercase"], lowercase),
  (["math"], .union (ofCategory (· == .mathSymbol)) otherMath),
  (["mcm", "modifiercombiningmark"], modifierCombiningMark),
  (["nchar", "noncharactercodepoint"], noncharacter),
  (["oalpha", "otheralphabetic"], otherAlphabetic),
  (["odi", "otherdefaultignorablecodepoint"], otherDefaultIgnorable),
  (["ogrext", "othergraphemeextend"], otherGraphemeExtend),
  (["oidc", "otheridcontinue"], otherIdContinue),
  (["oids", "otheridstart"], otherIdStart),
  (["olower", "otherlowercase"], otherLowercase),
  (["omath", "othermath"], otherMath),
  (["oupper", "otheruppercase"], otherUppercase),
  (["patsyn", "patternsyntax"], patternSyntax),
  (["patws", "patternwhitespace"], patternWhiteSpace),
  (["pcm", "prependedconcatenationmark"], prependedConcatenationMark),
  (["qmark", "quotationmark"], quotationMark),
  (["radical"], radical),
  (["ri", "regionalindicator"], regionalIndicator),
  (["sterm", "sentenceterminal"], sentenceTerminal),
  (["sd", "softdotted"], softDotted),
  (["term", "terminalpunctuation"], terminalPunctuation),
  (["uideo", "unifiedideograph"], unifiedIdeograph),
  (["upper", "uppercase"], uppercase),
  (["vs", "variationselector"], variationSelector),
  (["wspace", "whitespace", "space"], whiteSpace),
  (["xidc", "xidcontinue"], .diff idContinue notXidContinue),
  (["xids", "xidstart"], .diff idStart notXidStart)]

def categoryValues : List (List String × (Category → Bool)) := [
  (["c", "other"], Category.isOther),
  (["cc", "control", "cntrl"], (· == .control)),
  (["cf", "format"], (· == .format)),
  (["cn", "unassigned"], (· == .unassigned)),
  (["co", "privateuse"], (· == .privateUse)),
  (["l", "letter"], Category.isLetter),
  (["lc", "casedletter"], Category.isCasedLetter),
  (["ll", "lowercaseletter"], (· == .lowercase)),
  (["lm", "modifierletter"], (· == .modifierLetter)),
  (["lo", "otherletter"], (· == .otherLetter)),
  (["lt", "titlecaseletter"], (· == .titlecase)),
  (["lu", "uppercaseletter"], (· == .uppercase)),
  (["m", "mark", "combiningmark"], Category.isMark),
  (["mc", "spacingmark"], (· == .spacingMark)),
  (["me", "enclosingmark"], (· == .enclosingMark)),
  (["mn", "nonspacingmark"], (· == .nonspacingMark)),
  (["n", "number"], Category.isNumber),
  (["nd", "decimalnumber", "digit"], (· == .decimalNumber)),
  (["nl", "letternumber"], (· == .letterNumber)),
  (["no", "othernumber"], (· == .otherNumber)),
  (["p", "punctuation", "punct"], Category.isPunctuation),
  (["pc", "connectorpunctuation"], (· == .connector)),
  (["pd", "dashpunctuation"], (· == .dash)),
  (["pe", "closepunctuation"], (· == .closing)),
  (["pf", "finalpunctuation"], (· == .finalQuote)),
  (["pi", "initialpunctuation"], (· == .initialQuote)),
  (["po", "otherpunctuation"], (· == .otherPunctuation)),
  (["ps", "openpunctuation"], (· == .opening)),
  (["s", "symbol"], Category.isSymbol),
  (["sc", "currencysymbol"], (· == .currencySymbol)),
  (["sk", "modifiersymbol"], (· == .modifierSymbol)),
  (["sm", "mathsymbol"], (· == .mathSymbol)),
  (["so", "othersymbol"], (· == .otherSymbol)),
  (["z", "separator"], Category.isSeparator),
  (["zl", "lineseparator"], (· == .lineSeparator)),
  (["zp", "paragraphseparator"], (· == .paragraphSeparator)),
  (["zs", "spaceseparator"], (· == .spaceSeparator))]

inductive Unknown where
  | property | value
  deriving DecidableEq, Repr

/-- Property names are compared without case, spaces, underscores, hyphens and a leading `is`. The
short name `isc` of a property keeps it. -/
def normalizeName (name : List Char) : List Char :=
  let dropsIs := match name with
    | i :: s :: _ => (i == 'i' || i == 'I') && (s == 's' || s == 'S')
    | _ => false
  let kept := ((if dropsIs then name.drop 2 else name).filter fun c =>
    c.toNat < 128 && c != ' ' && c != '_' && c != '-').map Char.toLower
  if dropsIs && kept == ['c'] then ['i', 's', 'c'] else kept

def findNamed {α : Type} (table : List (List String × α)) (name : List Char) : Option α :=
  (table.find? fun entry => entry.1.any (·.toList == name)).map Prod.snd

/-- Reads a normalised general category value, with the values for every character, for assigned
ones and for the first 128. -/
def categoryNamed? (name : List Char) : Option CharSet :=
  if name == "any".toList then some (.compl .none)
  else if name == "assigned".toList then some (.compl (ofCategory (· == .unassigned)))
  else if name == "ascii".toList then some ascii
  else (findNamed categoryValues name).map ofCategory

def scriptCode? (name : List Char) : Option (List Char) :=
  (Script.names.find? fun names => names.any (normalizeName · == name)).bind List.head?

/-- Properties with values, each with the reading of a normalised value. -/
def valuedProperties : List (List String × (List Char → Option CharSet)) := [
  (["gc", "generalcategory"], categoryNamed?),
  (["sc", "script"], fun name => (scriptCode? name).map Script.members),
  (["scx", "scriptextensions"], fun name => (scriptCode? name).map Script.extendedMembers),
  (["age"], Age.members?),
  (["gcb", "graphemeclusterbreak"], findNamed clusterBreaks),
  (["wb", "wordbreak"], findNamed wordBreaks),
  (["sb", "sentencebreak"], findNamed sentenceBreaks)]

/-- Values that exist and of which no character is a member. -/
def vacantValues : List String := ["cs", "surrogate", "hrkt", "katakanaorhiragana", "zzzz", "unknown"]

/-- Normalised names of properties that are known and have neither members nor values. -/
def namedOnly : List (List Char) := words "
bc bidiclass bidimirroringglyph bidipairedbracket bidipairedbrackettype blk block bmg bpb bpt
canonicalcombiningclass casefolding ccc ce cf changeswhennfkccasefolded cjkaccountingnumeric
cjkcompatibilityvariant cjkiicore cjkirggsource cjkirghsource cjkirgjsource cjkirgkpsource
cjkirgksource cjkirgmsource cjkirgssource cjkirgtsource cjkirguksource cjkirgusource cjkirgvsource
cjkothernumeric cjkprimarynumeric cjkrsunicode compex compositionexclusion cwkcf
decompositionmapping decompositiontype dm dt ea eastasianwidth equideo equivalentunifiedideograph
expandsonnfc expandsonnfd expandsonnfkc expandsonnfkd fullcompositionexclusion hangulsyllabletype
hst incb indicconjunctbreak indicpositionalcategory indicsyllabiccategory inpc insc isc isocomment
jamoshortname jg joininggroup joiningtype jsn jt kaccountingnumeric kcompatibilityvariant kiicore
kirggsource kirghsource kirgjsource kirgkpsource kirgksource kirgmsource kirgssource kirgtsource
kirguksource kirgusource kirgvsource kothernumeric kprimarynumeric krsunicode lb lc linebreak
lowercasemapping na na1 name namealias nfcqc nfcquickcheck nfdqc nfdquickcheck nfkccasefold nfkccf
nfkcqc nfkcquickcheck nfkcscf nfkcsimplecasefold nfkdqc nfkdquickcheck nt numerictype numericvalue
nv scf sfc simplecasefolding simplelowercasemapping simpletitlecasemapping simpleuppercasemapping
slc stc suc tc titlecasemapping uc unicode1name unicoderadicalstroke uppercasemapping urs
verticalorientation vo xonfc xonfd xonfkc xonfkd
"

def propertyNamed (name : List Char) : Except Unknown CharSet :=
  let name := normalizeName name
  let choices := [findNamed binaryProperties name, categoryNamed? name,
    (scriptCode? name).map Script.members]
  match choices.findSome? id with
  | some members => .ok members
  | none => .error (if vacantValues.any (·.toList == name) then .value else .property)

def propertyValued (name value : List Char) : Except Unknown CharSet :=
  let name := normalizeName name
  match findNamed valuedProperties name with
  | some read =>
    match read (normalizeName value) with
    | some members => .ok members
    | none => .error .value
  | none =>
    if namedOnly.contains name || (findNamed binaryProperties name).isSome then .error .value
    else .error .property

end StoryScript.Unicode
