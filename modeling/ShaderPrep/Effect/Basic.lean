import ShaderPrep.Settings

/-!
Effects and compute shaders, the products of compiling, and the keys they are kept under. A key
names the sources and the defines, so variants of one shader stay apart.
-/
namespace ShaderPrep

/-- Where the source of a stage comes from. -/
inductive Source where
  /-- The store, or else the repository. -/
  | named (name : Text)
  | code (text : Text)
  deriving DecidableEq, Repr

/-- What a source adds to a key: its name or all of its text. -/
def Source.label : Source → Text
  | named name => name
  | code text => text

/-- A vertex and a fragment stage, ready to be used. -/
structure Effect where
  key : Text
  vertex : Text
  fragment : Text
  /-- The stages right after their includes were resolved. -/
  rawVertex : Text
  rawFragment : Text
  deriving DecidableEq, Repr

structure ComputeShader where
  key : Text
  code : Text
  raw : Text
  deriving DecidableEq, Repr

/-- What the defines add to a key. -/
def definesKey (defines : List Text) : Text := ['@'] ++ Text.join ['\n'] defines

def Effect.keyOf (vertex fragment : Source) (defines : List Text) : Text :=
  vertex.label ++ ['+'] ++ fragment.label ++ definesKey defines

def ComputeShader.keyOf (source : Source) (defines : List Text) : Text :=
  source.label ++ definesKey defines

/-- The first line of a key, by which a note refers to it. -/
def shortKey (key : Text) : Text :=
  match Text.cut? ['\n'] key with
  | some (line, _) => line.dropLastIf '\r'
  | none => key

example : shortKey "a+b@A\r\nB".toList = "a+b@A".toList := by decide
example : shortKey "a@\r".toList = "a@\r".toList := by decide

end ShaderPrep
