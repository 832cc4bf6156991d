import LexKit.Regex.CharClass
import LexKit.Unicode.Category
import LexKit.Unicode.Letter
import LexKit.Unicode.Script

/-!
# General categories and scripts

Every character has one general category; some groups of categories have names too. A script is a class in two
ways: the characters that are its own, and all characters that it is written with, some of which it shares with
other scripts.
-/

namespace LexKit.Regex.Property

/-- What a name stands for in a list of things with several names. -/
def named? {α : Type} (entries : List (List String × α)) (name : String) : Option α :=
  (entries.find? fun entry => entry.1.contains name).map (·.2)

def uppercaseLetter : CharClass :=
  .union (.table Unicode.uppercaseLetterRanges) (.spaced 2 Unicode.uppercaseLetterAlternating)

def lowercaseLetter : CharClass :=
  .union (.table Unicode.lowercaseLetterRanges) (.spaced 2 Unicode.lowercaseLetterAlternating)

def titlecaseLetter : CharClass := .table Unicode.titlecaseLetterRanges

def modifierLetter : CharClass := .table Unicode.modifierLetterRanges

def otherLetter : CharClass := .table Unicode.otherLetterRanges

def casedLetter : CharClass := .ofList [uppercaseLetter, lowercaseLetter, titlecaseLetter]

def letter : CharClass := .ofList [casedLetter, modifierLetter, otherLetter]

def nonspacingMark : CharClass := .table Unicode.nonspacingMarkRanges

def spacingMark : CharClass := .table Unicode.spacingMarkRanges

def enclosingMark : CharClass := .table Unicode.enclosingMarkRanges

def mark : CharClass := .ofList [nonspacingMark, spacingMark, enclosingMark]

def decimalNumber : CharClass := .table Unicode.digitRanges

def letterNumber : CharClass := .table Unicode.letterNumberRanges

def otherNumber : CharClass := .table Unicode.otherNumberRanges

def number : CharClass := .ofList [decimalNumber, letterNumber, otherNumber]

def connectorPunctuation : CharClass := .table Unicode.connectorPunctuationRanges

def dashPunctuation : CharClass := .table Unicode.dashPunctuationRanges

def openPunctuation : CharClass := .table Unicode.openPunctuationRanges

def closePunctuation : CharClass := .table Unicode.closePunctuationRanges

def initialPunctuation : CharClass := .table Unicode.initialPunctuationRanges

def finalPunctuation : CharClass := .table Unicode.finalPunctuationRanges

def otherPunctuation : CharClass := .table Unicode.otherPunctuationRanges

def pairedPunctuation : CharClass :=
  .ofList [openPunctuation, closePunctuation, initialPunctuation, finalPunctuation]

def punctuation : CharClass :=
  .ofList [connectorPunctuation, dashPunctuation, pairedPunctuation, otherPunctuation]

def mathSymbol : CharClass := .table Unicode.mathSymbolRanges

def currencySymbol : CharClass := .table Unicode.currencySymbolRanges

def modifierSymbol : CharClass := .table Unicode.modifierSymbolRanges

def otherSymbol : CharClass := .table Unicode.otherSymbolRanges

def symbol : CharClass := .ofList [mathSymbol, currencySymbol, modifierSymbol, otherSymbol]

def spaceSeparator : CharClass := .table Unicode.spaceSeparatorRanges

def lineSeparator : CharClass := .table Unicode.lineSeparatorRanges

def paragraphSeparator : CharClass := .table Unicode.paragraphSeparatorRanges

def separator : CharClass := .ofList [spaceSeparator, lineSeparator, paragraphSeparator]

def control : CharClass := .table Unicode.controlRanges

def format : CharClass := .table Unicode.formatRanges

def privateUse : CharClass := .table Unicode.privateUseRanges

/-- The characters that have any other category than Cn. -/
def assigned : CharClass :=
  .ofList [letter, mark, number, punctuation, symbol, separator, control, format, privateUse]

def unassigned : CharClass := .compl assigned

def other : CharClass := .ofList [control, format, privateUse, unassigned]

/-- The categories and their groups by their names, in small letters without separators. There is no character of
category Cs. -/
def categories : List (List String × CharClass) := [
  (["any"], .all), (["ascii"], .range '\x00' '\x7f'), (["assigned"], assigned),
  (["l", "letter"], letter), (["lc", "casedletter"], casedLetter),
  (["lu", "uppercaseletter"], uppercaseLetter), (["ll", "lowercaseletter"], lowercaseLetter),
  (["lt", "titlecaseletter"], titlecaseLetter), (["lm", "modifierletter"], modifierLetter),
  (["lo", "otherletter"], otherLetter),
  (["m", "mark", "combiningmark"], mark), (["mn", "nonspacingmark"], nonspacingMark),
  (["mc", "spacingmark"], spacingMark), (["me", "enclosingmark"], enclosingMark),
  (["n", "number"], number), (["nd", "decimalnumber", "digit"], decimalNumber),
  (["nl", "letternumber"], letterNumber), (["no", "othernumber"], otherNumber),
  (["p", "punctuation", "punct"], punctuation),
  (["pc", "connectorpunctuation"], connectorPunctuation),
  (["pd", "dashpunctuation"], dashPunctuation), (["ps", "openpunctuation"], openPunctuation),
  (["pe", "closepunctuation"], closePunctuation),
  (["pi", "initialpunctuation"], initialPunctuation),
  (["pf", "finalpunctuation"], finalPunctuation), (["po", "otherpunctuation"], otherPunctuation),
  (["s", "symbol"], symbol), (["sm", "mathsymbol"], mathSymbol),
  (["sc", "currencysymbol"], currencySymbol), (["sk", "modifiersymbol"], modifierSymbol),
  (["so", "othersymbol"], otherSymbol),
  (["z", "separator"], separator), (["zs", "spaceseparator"], spaceSeparator),
  (["zl", "lineseparator"], lineSeparator), (["zp", "paragraphseparator"], paragraphSeparator),
  (["c", "other"], other), (["cc", "control", "cntrl"], control), (["cf", "format"], format),
  (["co", "privateuse"], privateUse), (["cn", "unassigned"], unassigned)]

/-! ## Scripts -/

def sharedCharacters : CharClass := .ofList (Unicode.scripts.map fun script => .table script.shared)

/-- The own characters of scripts, by the names of the scripts. Characters of no script in particular, and marks
that take the script of the character before them, count as scripts too. -/
def scripts : List (List String × CharClass) :=
  [(["common", "zyyy"], .table Unicode.commonRanges),
    (["inherited", "zinh", "qaai"], .table Unicode.inheritedRanges)] ++
  Unicode.scripts.map fun script => (script.names, .table script.ranges)

def scriptExtensions : List (List String × CharClass) :=
  [(["common", "zyyy"], .diff (.table Unicode.commonRanges) sharedCharacters),
    (["inherited", "zinh", "qaai"], .diff (.table Unicode.inheritedRanges) sharedCharacters)] ++
  Unicode.scripts.map fun script =>
    (script.names, .union (.table script.ranges) (.table script.shared))

end LexKit.Regex.Property
