import LexKit.Regex.Property.Category
import LexKit.Unicode.Age
import LexKit.Unicode.Trait

/-!
# Traits

Properties that a character has or has not. Most are derived from the general categories and from tables of
further characters, as the Unicode standard derives them.
-/

namespace LexKit.Regex.Property

/-! ## Letters and their case -/

/-- The table of alphabetic characters is a version ahead of patterns. -/
def alphabetic : CharClass :=
  .diff (.table Unicode.alphabeticRanges) (.table Unicode.newIn17_0)

def otherAlphabetic : CharClass := .diff alphabetic (.union letter letterNumber)

def otherLowercase : CharClass := .table Unicode.otherLowercaseRanges

def otherUppercase : CharClass := .table Unicode.otherUppercaseRanges

def lowercase : CharClass := .union lowercaseLetter otherLowercase

def uppercase : CharClass := .union uppercaseLetter otherUppercase

def cased : CharClass := .ofList [lowercase, uppercase, titlecaseLetter]

def caseIgnorable : CharClass :=
  .ofList [nonspacingMark, enclosingMark, format, modifierLetter, modifierSymbol,
    .table Unicode.caseIgnorableRanges]

def varying : CharClass :=
  .ofList (Unicode.caseRuns.map fun run => .spaced run.step [(run.first, run.last)])

/-- The capital I with a dot, which becomes two characters where it becomes small. -/
def capitalI : CharClass := .table [(0x130, 0x130)]

def changesWhenLowercased : CharClass :=
  .union (.inter varying (.union uppercase titlecaseLetter)) capitalI

def changesWhenUppercased : CharClass :=
  .union (.inter varying (.union lowercase titlecaseLetter)) (.table Unicode.expandingRanges)

def changesWhenTitlecased : CharClass :=
  .diff (.union changesWhenUppercased (.table Unicode.capitalPairRanges))
    (.union titlecaseLetter (.table Unicode.untitledRanges))

def changesWhenCasefolded : CharClass :=
  .diff (.union changesWhenLowercased (.table Unicode.foldedSmallRanges))
    (.table Unicode.unfoldedCapitalRanges)

def changesWhenCasemapped : CharClass :=
  .ofList [varying, capitalI, .table Unicode.expandingRanges]

/-! ## Digits and mathematics -/

def asciiHexDigit : CharClass := .table [(0x30, 0x39), (0x41, 0x46), (0x61, 0x66)]

def hexDigit : CharClass :=
  .union asciiHexDigit (.table [(0xFF10, 0xFF19), (0xFF21, 0xFF26), (0xFF41, 0xFF46)])

def otherMath : CharClass := .table Unicode.otherMathRanges

def math : CharClass := .union mathSymbol otherMath

/-! ## Identifiers -/

def patternCharacter : CharClass :=
  .union (.table Unicode.patternSyntaxRanges) (.table Unicode.patternWhiteSpaceRanges)

def otherIdStart : CharClass := .table Unicode.otherIdStartRanges

def otherIdContinue : CharClass := .table Unicode.otherIdContinueRanges

def idStart : CharClass := .diff (.ofList [letter, letterNumber, otherIdStart]) patternCharacter

def idContinue : CharClass :=
  .union idStart
    (.diff (.ofList [nonspacingMark, spacingMark, decimalNumber, connectorPunctuation,
      otherIdContinue]) patternCharacter)

def xidStart : CharClass := .diff idStart (.table Unicode.unstableIdStartRanges)

def xidContinue : CharClass := .diff idContinue (.table Unicode.unstableIdContinueRanges)

def compatMathStart : CharClass := .table Unicode.compatMathStartRanges

/-! ## Parts of what is read as one character -/

def otherGraphemeExtend : CharClass := .table Unicode.otherGraphemeExtendRanges

def graphemeExtend : CharClass := .ofList [nonspacingMark, enclosingMark, otherGraphemeExtend]

def graphemeBase : CharClass :=
  .diff assigned
    (.ofList [control, format, privateUse, lineSeparator, paragraphSeparator, graphemeExtend])

def emojiModifier : CharClass := .table [(0x1F3FB, 0x1F3FF)]

def regionalIndicator : CharClass := .table [(0x1F1E6, 0x1F1FF)]

def joinControl : CharClass := .table [(0x200C, 0x200D)]

def prependedMark : CharClass := .table Unicode.prependedMarkRanges

/-! ## Separators and characters set apart -/

def whiteSpace : CharClass := .table Unicode.blankRanges

def ignorable : CharClass := .table Unicode.ignorableRanges

def sentenceTerminal : CharClass := .table Unicode.sentenceTerminalRanges

def ideographic : CharClass := .table Unicode.ideographicRanges

/-- The traits by their names, in small letters without separators. -/
def traits : List (List String × CharClass) := [
  (["alphabetic", "alpha"], alphabetic), (["otheralphabetic", "oalpha"], otherAlphabetic),
  (["lowercase", "lower"], lowercase), (["otherlowercase", "olower"], otherLowercase),
  (["uppercase", "upper"], uppercase), (["otheruppercase", "oupper"], otherUppercase),
  (["cased"], cased), (["caseignorable", "ci"], caseIgnorable),
  (["changeswhenlowercased", "cwl"], changesWhenLowercased),
  (["changeswhenuppercased", "cwu"], changesWhenUppercased),
  (["changeswhentitlecased", "cwt"], changesWhenTitlecased),
  (["changeswhencasefolded", "cwcf"], changesWhenCasefolded),
  (["changeswhencasemapped", "cwcm"], changesWhenCasemapped),
  (["softdotted", "sd"], .table Unicode.softDottedRanges),
  (["asciihexdigit", "ahex"], asciiHexDigit), (["hexdigit", "hex"], hexDigit),
  (["math"], math), (["othermath", "omath"], otherMath),
  (["bidimirrored", "bidim"], .table Unicode.bidiMirroredRanges),
  (["bidicontrol", "bidic"], .table Unicode.bidiControlRanges),
  (["idstart", "ids"], idStart), (["otheridstart", "oids"], otherIdStart),
  (["idcontinue", "idc"], idContinue), (["otheridcontinue", "oidc"], otherIdContinue),
  (["xidstart", "xids"], xidStart), (["xidcontinue", "xidc"], xidContinue),
  (["idcompatmathstart"], compatMathStart),
  (["idcompatmathcontinue"], .union compatMathStart (.table Unicode.compatMathOtherRanges)),
  (["patternsyntax", "patsyn"], .table Unicode.patternSyntaxRanges),
  (["patternwhitespace", "patws"], .table Unicode.patternWhiteSpaceRanges),
  (["graphemeextend", "grext"], graphemeExtend),
  (["othergraphemeextend", "ogrext"], otherGraphemeExtend),
  (["graphemebase", "grbase"], graphemeBase),
  (["graphemelink", "grlink"], .table Unicode.graphemeLinkRanges),
  (["diacritic", "dia"], .table Unicode.diacriticRanges),
  (["extender", "ext"], .table Unicode.extenderRanges),
  (["modifiercombiningmark", "mcm"], .table Unicode.modifierCombiningMarkRanges),
  (["prependedconcatenationmark", "pcm"], prependedMark),
  (["joincontrol", "joinc"], joinControl),
  (["variationselector", "vs"], .table Unicode.variationSelectorRanges),
  (["logicalorderexception", "loe"], .table Unicode.logicalOrderExceptionRanges),
  (["regionalindicator", "ri"], regionalIndicator),
  (["emoji"], .table Unicode.emojiRanges),
  (["emojipresentation", "epres"], .table Unicode.emojiPresentationRanges),
  (["emojimodifier", "emod"], emojiModifier),
  (["emojimodifierbase", "ebase"], .table Unicode.emojiModifierBaseRanges),
  (["emojicomponent", "ecomp"], .table Unicode.emojiComponentRanges),
  (["extendedpictographic", "extpict"], .table Unicode.pictographicRanges),
  (["ideographic", "ideo"], ideographic),
  (["unifiedideograph", "uideo"], .table Unicode.unifiedIdeographRanges),
  (["radical"], .table Unicode.radicalRanges),
  (["idsbinaryoperator", "idsb"], .table Unicode.idsBinaryOperatorRanges),
  (["idstrinaryoperator", "idst"], .table [(0x2FF2, 0x2FF3)]),
  (["idsunaryoperator", "idsu"], .table [(0x2FFE, 0x2FFF)]),
  (["dash"], .table Unicode.dashRanges), (["hyphen"], .table Unicode.hyphenRanges),
  (["quotationmark", "qmark"], .table Unicode.quotationMarkRanges),
  (["terminalpunctuation", "term"], .table Unicode.terminalPunctuationRanges),
  (["sentenceterminal", "sterm"], sentenceTerminal),
  (["whitespace", "wspace", "space"], whiteSpace),
  (["defaultignorablecodepoint", "di"], ignorable),
  (["otherdefaultignorablecodepoint", "odi"], .table Unicode.otherIgnorableRanges),
  (["deprecated", "dep"], .table Unicode.deprecatedRanges),
  (["noncharactercodepoint", "nchar"], .table Unicode.noncharacterRanges)]

end LexKit.Regex.Property
