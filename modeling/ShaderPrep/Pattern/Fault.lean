import ShaderPrep.Text.Basic

/-! Why a text spells no pattern. -/
namespace ShaderPrep.Pattern

inductive Fault where
  | unclosedGroup
  | unopenedGroup
  | groupName
  | duplicateGroupName
  | unclosedClass
  | classRange
  | classItem
  | nothingToRepeat
  | repetitionCount
  | escape
  | hexadecimal
  | flag
  | lookAround
  | backReference
  | unknownProperty
  | notUnicode
  | tooDeep
  | tooLarge
  deriving DecidableEq, Repr

/-- A short text of this library's own for each fault. Other readers of the same dialect word their
reasons at more length; what is fixed is which texts are refused, not the words for it. -/
def Fault.message : Fault → Text
  | unclosedGroup => "unclosed group".toList
  | unopenedGroup => "unopened group".toList
  | groupName => "invalid group name".toList
  | duplicateGroupName => "duplicate group name".toList
  | unclosedClass => "unclosed character class".toList
  | classRange => "invalid character class range".toList
  | classItem => "invalid item in character class".toList
  | nothingToRepeat => "repetition operator missing expression".toList
  | repetitionCount => "invalid repetition count".toList
  | escape => "unrecognized escape sequence".toList
  | hexadecimal => "invalid hexadecimal escape".toList
  | flag => "invalid flags".toList
  | lookAround => "look-around is not supported".toList
  | backReference => "backreferences are not supported".toList
  | unknownProperty => "unknown Unicode property".toList
  | notUnicode => "pattern can match invalid UTF-8".toList
  | tooDeep => "pattern is nested too deeply".toList
  | tooLarge => "pattern is too large".toList

end ShaderPrep.Pattern
