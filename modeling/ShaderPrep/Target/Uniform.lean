import ShaderPrep.Text.Basic
import ShaderPrep.Unicode.Classes

/-!
Plain uniform declarations: the keyword, a precision perhaps, a type and a name, and a semicolon.
Type and name are any words without blanks in them.
-/
namespace ShaderPrep.Target

/-- Whether the predicate holds of what is left from some position on. -/
def somewhere (p : Text → Bool) : Text → Bool
  | [] => p []
  | c :: s => p (c :: s) || somewhere p s

/-- A word and the text behind it. -/
def word (s : Text) : Text × Text :=
  (s.takeWhile fun c => !Unicode.isBlank c, s.dropWhile fun c => !Unicode.isBlank c)

/-- What follows at least one blank. -/
def afterBlanks? : Text → Option Text
  | [] => none
  | c :: s => if Unicode.isBlank c then some (s.dropWhile Unicode.isBlank) else none

/-- A name and a semicolon: inside the name's own word behind its first character, or next after
that word. -/
def endsDeclaration (s : Text) : Bool :=
  match word s with
  | ([], _) => false
  | (_ :: more, rest) => more.contains ';' || Text.begins [';'] rest.trimStart

/-- A type, blanks, and the end of a declaration. -/
def typedDeclaration (s : Text) : Bool :=
  match word s with
  | ([], _) => false
  | (_, rest) => (afterBlanks? rest).any endsDeclaration

/-- Whether a text starts with a plain uniform declaration. A precision may also pass as the
type. -/
def startsUniform (s : Text) : Bool :=
  match (Text.after? "uniform".toList s).bind afterBlanks? with
  | none => false
  | some s =>
    typedDeclaration s ||
      ["highp".toList, "lowp".toList].any fun precision =>
        ((Text.after? precision s).map Text.trimStart).any typedDeclaration

/-- Whether a plain uniform declaration occurs in a line. -/
def isPlainUniform (line : Text) : Bool := somewhere startsUniform line

example : isPlainUniform "uniform highp mat4 world;".toList = true := by decide
example : isPlainUniform "uniform Scene \x7b".toList = false := by decide

end ShaderPrep.Target
