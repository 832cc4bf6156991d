import LexKit.Regex.Property.Trait

/-!
# Segments of text

The parts that characters play where text is divided into what is read as one character, into words and into
sentences. Most of them are derived from general categories and traits, and the order of the derivations
matters: a part leaves out what belongs to an earlier one.
-/

namespace LexKit.Regex.Property

def carriageReturn : CharClass := .single '\r'

def lineFeed : CharClass := .single '\n'

def zeroWidthJoiner : CharClass := .table [(0x200D, 0x200D)]

def plainFormat : CharClass := .diff format (.ofList [joinControl, prependedMark, graphemeExtend])

def numeral : CharClass :=
  .ofList [decimalNumber, .table [(0x66B, 0x66B)],
    .diff prependedMark (.table [(0x70F, 0x70F)])]

/-! ## Graphemes -/

/-- Letters that are read together with the next letter. -/
def prependedLetter : CharClass :=
  .table [(0xD4E, 0xD4E), (0x111C2, 0x111C3), (0x113D1, 0x113D1), (0x1193F, 0x1193F),
    (0x11941, 0x11941), (0x11A3A, 0x11A3A), (0x11A84, 0x11A89), (0x11D46, 0x11D46),
    (0x11F02, 0x11F02)]

def detachedMark : CharClass :=
  .table [(0x102B, 0x102C), (0x1038, 0x1038), (0x1062, 0x1064), (0x1067, 0x106D),
    (0x1083, 0x1083), (0x1087, 0x108C), (0x108F, 0x108F), (0x109A, 0x109C), (0x1A61, 0x1A61),
    (0x1A63, 0x1A64), (0xAA7B, 0xAA7B), (0xAA7D, 0xAA7D), (0x11720, 0x11721)]

def graphemeSpacingMark : CharClass :=
  .diff (.union spacingMark (.table [(0xE33, 0xE33), (0xEB3, 0xEB3)]))
    (.union graphemeExtend detachedMark)

def graphemeControl : CharClass :=
  .diff
    (.ofList [lineSeparator, paragraphSeparator, control, .diff format joinControl,
      .inter unassigned ignorable])
    (.ofList [carriageReturn, lineFeed, prependedMark, graphemeExtend])

/-- The syllables of Hangul without a final consonant, which begin every 28 numbers. -/
def openSyllable : CharClass := .spaced 28 [(0xAC00, 0xD7A3)]

def graphemeBreaks : List (List String × CharClass) := [
  (["cr"], carriageReturn), (["lf"], lineFeed), (["cn", "control"], graphemeControl),
  (["ex", "extend"], .union graphemeExtend emojiModifier), (["zwj"], zeroWidthJoiner),
  (["ri", "regionalindicator"], regionalIndicator),
  (["pp", "prepend"], .union prependedMark prependedLetter),
  (["sm", "spacingmark"], graphemeSpacingMark),
  (["l"], .table [(0x1100, 0x115F), (0xA960, 0xA97C)]),
  (["v"], .table [(0x1160, 0x11A7), (0xD7B0, 0xD7C6), (0x16D63, 0x16D63), (0x16D67, 0x16D6A)]),
  (["t"], .table [(0x11A8, 0x11FF), (0xD7CB, 0xD7FB)]),
  (["lv"], openSyllable), (["lvt"], .diff (.table [(0xAC00, 0xD7A3)]) openSyllable)]

/-! ## Words -/

def wordExtend : CharClass := .ofList [graphemeExtend, spacingMark, emojiModifier]

def unspacedLetter : CharClass :=
  .table [(0xE01, 0xE3A), (0xE40, 0xE4E), (0xE81, 0xE82), (0xE84, 0xE84), (0xE86, 0xE8A),
    (0xE8C, 0xEA3), (0xEA5, 0xEA5), (0xEA7, 0xEBD), (0xEC0, 0xEC4), (0xEC6, 0xEC6),
    (0xEC8, 0xECE), (0xEDC, 0xEDF), (0x1000, 0x103F), (0x1050, 0x108F), (0x109A, 0x109F),
    (0x1780, 0x17D3), (0x17D7, 0x17D7), (0x17DC, 0x17DD), (0x1950, 0x196D), (0x1970, 0x1974),
    (0x1980, 0x19AB), (0x19B0, 0x19C9), (0x19DA, 0x19DA), (0x19DE, 0x19DF), (0x1A20, 0x1A5E),
    (0x1A60, 0x1A7C), (0x1AA0, 0x1AAD), (0xA9E0, 0xA9EF), (0xA9FA, 0xA9FE), (0xAA60, 0xAAC2),
    (0xAADB, 0xAADF), (0x11700, 0x1171A), (0x1171D, 0x1172B), (0x1173A, 0x1173B),
    (0x1173F, 0x11746)]

def wordSign : CharClass :=
  .table [(0x2C2, 0x2C5), (0x2D2, 0x2D7), (0x2DE, 0x2DF), (0x2E5, 0x2EB), (0x2ED, 0x2ED),
    (0x2EF, 0x2FF), (0x55A, 0x55C), (0x55E, 0x55E), (0x58A, 0x58A), (0x5F3, 0x5F3),
    (0x70F, 0x70F), (0xA708, 0xA716), (0xA720, 0xA721), (0xA789, 0xA78A), (0xAB5B, 0xAB5B)]

def scriptCharacter (name : String) : CharClass := (named? scripts name).getD .none

def hebrewLetter : CharClass := .inter (scriptCharacter "hebrew") otherLetter

def wordKatakana : CharClass :=
  .union (scriptCharacter "katakana")
    (.table [(0x3031, 0x3035), (0x309B, 0x309C), (0x30A0, 0x30A0), (0x30FC, 0x30FC),
      (0xFF70, 0xFF70)])

def wordLetter : CharClass :=
  .diff (.union alphabetic wordSign)
    (.ofList [ideographic, wordKatakana, unspacedLetter, scriptCharacter "hiragana", wordExtend,
      hebrewLetter])

def wordBreaks : List (List String × CharClass) := [
  (["cr"], carriageReturn), (["lf"], lineFeed),
  (["nl", "newline"], .table [(0xB, 0xC), (0x85, 0x85), (0x2028, 0x2029)]),
  (["extend"], wordExtend), (["zwj"], zeroWidthJoiner),
  (["fo", "format"], .diff plainFormat (.table [(0x200B, 0x200B)])),
  (["ri", "regionalindicator"], regionalIndicator),
  (["ka", "katakana"], wordKatakana), (["hl", "hebrewletter"], hebrewLetter),
  (["le", "aletter"], wordLetter), (["nu", "numeric"], numeral),
  (["sq", "singlequote"], .single '\''), (["dq", "doublequote"], .single '"'),
  (["mb", "midnumlet"], .table [(0x2E, 0x2E), (0x2018, 0x2019), (0x2024, 0x2024),
    (0xFE52, 0xFE52), (0xFF07, 0xFF07), (0xFF0E, 0xFF0E)]),
  (["ml", "midletter"], .table [(0x3A, 0x3A), (0xB7, 0xB7), (0x387, 0x387), (0x55F, 0x55F),
    (0x5F4, 0x5F4), (0x2027, 0x2027), (0xFE13, 0xFE13), (0xFE55, 0xFE55), (0xFF1A, 0xFF1A)]),
  (["mn", "midnum"], .table [(0x2C, 0x2C), (0x3B, 0x3B), (0x37E, 0x37E), (0x589, 0x589),
    (0x60C, 0x60D), (0x66C, 0x66C), (0x7F8, 0x7F8), (0x2044, 0x2044), (0xFE10, 0xFE10),
    (0xFE14, 0xFE14), (0xFE50, 0xFE50), (0xFE54, 0xFE54), (0xFF0C, 0xFF0C), (0xFF1B, 0xFF1B)]),
  (["ex", "extendnumlet"], .union connectorPunctuation (.table [(0x202F, 0x202F)])),
  (["wsegspace"], .diff spaceSeparator
    (.table [(0xA0, 0xA0), (0x2007, 0x2007), (0x202F, 0x202F)]))]

/-! ## Sentences -/

def sentenceExtend : CharClass := .ofList [graphemeExtend, spacingMark, zeroWidthJoiner]

def sentenceSeparator : CharClass := .table [(0x85, 0x85), (0x2028, 0x2029)]

def sentenceLower : CharClass :=
  .diff lowercase (.union graphemeExtend (.table Unicode.untitledRanges))

def sentenceUpper : CharClass :=
  .diff (.union uppercase titlecaseLetter) (.table [(0x1C90, 0x1CBA), (0x1CBD, 0x1CBF)])

def sentenceLetter : CharClass :=
  .diff (.union alphabetic (.table [(0x5F3, 0x5F3), (0x70F, 0x70F)]))
    (.ofList [sentenceLower, sentenceUpper, sentenceExtend])

def fullStop : CharClass :=
  .table [(0x2E, 0x2E), (0x2024, 0x2024), (0xFE52, 0xFE52), (0xFF0E, 0xFF0E)]

def sentenceBreaks : List (List String × CharClass) := [
  (["cr"], carriageReturn), (["lf"], lineFeed), (["ex", "extend"], sentenceExtend),
  (["se", "sep"], sentenceSeparator), (["fo", "format"], plainFormat),
  (["sp"], .diff whiteSpace (.ofList [carriageReturn, lineFeed, sentenceSeparator])),
  (["lo", "lower"], sentenceLower), (["up", "upper"], sentenceUpper),
  (["le", "oletter"], sentenceLetter),
  (["nu", "numeric"], .union numeral (.table [(0x66C, 0x66C)])),
  (["at", "aterm"], fullStop), (["st", "sterm"], .diff sentenceTerminal fullStop),
  (["cl", "close"], .diff
    (.union pairedPunctuation
      (.table [(0x22, 0x22), (0x27, 0x27), (0x275B, 0x2760), (0x2E00, 0x2E01), (0x2E06, 0x2E08),
        (0x2E0B, 0x2E0B), (0x1F676, 0x1F678)]))
    (.union fullStop sentenceTerminal)),
  (["sc", "scontinue"], .table [(0x2C, 0x2D), (0x3A, 0x3B), (0x37E, 0x37E), (0x55D, 0x55D),
    (0x60C, 0x60D), (0x7F8, 0x7F8), (0x1802, 0x1802), (0x1808, 0x1808), (0x2013, 0x2014),
    (0x3001, 0x3001), (0xFE10, 0xFE11), (0xFE13, 0xFE14), (0xFE31, 0xFE32), (0xFE50, 0xFE51),
    (0xFE54, 0xFE55), (0xFE58, 0xFE58), (0xFE63, 0xFE63), (0xFF0C, 0xFF0D), (0xFF1A, 0xFF1B),
    (0xFF64, 0xFF64)])]

end LexKit.Regex.Property
