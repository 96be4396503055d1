import ShaderPrep.Unicode.Classes
import ShaderPrep.Unicode.Category
import ShaderPrep.Unicode.Property
import ShaderPrep.Unicode.Segment

/-!
Properties that follow from others: the cases of letters, the characters of identifiers and those
that clusters are made of. Each is a category or a few, with what the standard adds and takes away.
-/
namespace ShaderPrep.Unicode.Property

open Ranges

def lowercase : Ranges := union (Category.members ["Ll"]) otherLowercase

def uppercase : Ranges := union (Category.members ["Lu"]) otherUppercase

def cased : Ranges := union (union lowercase uppercase) (Category.members ["Lt"])

def alphabetic : Ranges :=
  union (union cased otherAlphabetic) (Category.members ["Lm", "Lo", "Nl"])

/-- Marks and signs that do not end a cased word. -/
def caseIgnorable : Ranges :=
  union (Category.members ["Cf", "Lm", "Me", "Mn", "Sk"])
    (wordBreakRuns.select ["ML", "MB", "SQ"].contains)

def changesWhenCasemapped : Ranges :=
  union (union changesWhenLowercased changesWhenUppercased) changesWhenTitlecased

/-- Characters that mean something of their own where patterns are written. -/
def patternCharacter : Ranges := union patternSyntax patternWhiteSpace

def idStart : Ranges :=
  diff (union (Category.members ["Ll", "Lm", "Lo", "Lt", "Lu", "Nl"]) otherIdStart)
    patternCharacter

def idContinue : Ranges :=
  diff (union idStart (union (Category.members ["Mc", "Mn", "Nd", "Pc"]) otherIdContinue))
    patternCharacter

/-- Characters whose compatible form may not stand in an identifier where they do. -/
def unstable : Ranges :=
  [(890, 890), (12443, 12444), (64606, 64611), (65018, 65019), (65136, 65136), (65138, 65138),
   (65140, 65140), (65142, 65142), (65144, 65144), (65146, 65146), (65148, 65148), (65150, 65150)]

def xidStart : Ranges :=
  diff idStart (union unstable
    [(3635, 3635), (3763, 3763), (65438, 65439)])

def xidContinue : Ranges := diff idContinue unstable

def graphemeExtend : Ranges := union (Category.members ["Me", "Mn"]) otherGraphemeExtend

def graphemeBase : Ranges :=
  complement (union (Category.members ["Cc", "Cf", "Cn", "Co", "Zl", "Zp"]) graphemeExtend)

def math : Ranges := union (Category.members ["Sm"]) otherMath

/-- Characters that leave no trace where they cannot be shown: format characters, without those
that annotate or join others. -/
def defaultIgnorableCodePoint : Ranges :=
  diff (union (union otherDefaultIgnorableCodePoint variationSelector) (Category.members ["Cf"]))
    (union (union blankRanges prependedConcatenationMark)
      [(0xFFF9, 0xFFFB), (0x13430, 0x13440)])

/-- All properties under their names, in lower case and without separators. -/
def names : List (List String × Ranges) :=
  [(["ahex", "asciihexdigit"], asciiHexDigit), (["alpha", "alphabetic"], alphabetic),
   (["bidic", "bidicontrol"], bidiControl), (["bidim", "bidimirrored"], bidiMirrored),
   (["ci", "caseignorable"], caseIgnorable), (["cased"], cased),
   (["cwcf", "changeswhencasefolded"], changesWhenCasefolded),
   (["cwcm", "changeswhencasemapped"], changesWhenCasemapped),
   (["cwl", "changeswhenlowercased"], changesWhenLowercased),
   (["cwt", "changeswhentitlecased"], changesWhenTitlecased),
   (["cwu", "changeswhenuppercased"], changesWhenUppercased), (["dash"], dash),
   (["di", "defaultignorablecodepoint"], defaultIgnorableCodePoint),
   (["dep", "deprecated"], deprecated), (["dia", "diacritic"], diacritic), (["emoji"], emoji),
   (["ecomp", "emojicomponent"], emojiComponent), (["emod", "emojimodifier"], emojiModifier),
   (["ebase", "emojimodifierbase"], emojiModifierBase),
   (["epres", "emojipresentation"], emojiPresentation),
   (["extpict", "extendedpictographic"], extendedPictographic), (["ext", "extender"], extender),
   (["grbase", "graphemebase"], graphemeBase), (["grext", "graphemeextend"], graphemeExtend),
   (["grlink", "graphemelink"], graphemeLink), (["hex", "hexdigit"], hexDigit),
   (["hyphen"], hyphen), (["idsb", "idsbinaryoperator"], idsBinaryOperator),
   (["idst", "idstrinaryoperator"], idsTrinaryOperator),
   (["idsu", "idsunaryoperator"], idsUnaryOperator),
   (["idcompatmathcontinue"], idCompatMathContinue), (["idcompatmathstart"], idCompatMathStart),
   (["idc", "idcontinue"], idContinue), (["ids", "idstart"], idStart),
   (["ideo", "ideographic"], ideographic), (["joinc", "joincontrol"], joinControl),
   (["loe", "logicalorderexception"], logicalOrderException), (["lower", "lowercase"], lowercase),
   (["math"], math), (["mcm", "modifiercombiningmark"], modifierCombiningMark),
   (["nchar", "noncharactercodepoint"], noncharacterCodePoint),
   (["oalpha", "otheralphabetic"], otherAlphabetic),
   (["odi", "otherdefaultignorablecodepoint"], otherDefaultIgnorableCodePoint),
   (["ogrext", "othergraphemeextend"], otherGraphemeExtend),
   (["oidc", "otheridcontinue"], otherIdContinue), (["oids", "otheridstart"], otherIdStart),
   (["olower", "otherlowercase"], otherLowercase), (["omath", "othermath"], otherMath),
   (["oupper", "otheruppercase"], otherUppercase), (["patsyn", "patternsyntax"], patternSyntax),
   (["patws", "patternwhitespace"], patternWhiteSpace),
   (["pcm", "prependedconcatenationmark"], prependedConcatenationMark),
   (["qmark", "quotationmark"], quotationMark), (["radical"], radical),
   (["ri", "regionalindicator"], regionalIndicator),
   (["sterm", "sentenceterminal"], sentenceTerminal), (["sd", "softdotted"], softDotted),
   (["term", "terminalpunctuation"], terminalPunctuation),
   (["uideo", "unifiedideograph"], unifiedIdeograph), (["upper", "uppercase"], uppercase),
   (["vs", "variationselector"], variationSelector),
   (["space", "wspace", "whitespace"], blankRanges), (["xidc", "xidcontinue"], xidContinue),
   (["xids", "xidstart"], xidStart)]

def named? (name : String) : Option Ranges :=
  (names.find? fun (spellings, _) => spellings.contains name).map Prod.snd

end ShaderPrep.Unicode.Property
