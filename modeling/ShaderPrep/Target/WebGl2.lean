import ShaderPrep.Target.Basic
import ShaderPrep.Target.Uniform
import ShaderPrep.Text.Substitute

/-!
Sources of the first WebGL version for a context of the second: attributes and varyings become
inputs and outputs, texture functions get their later names, extensions that have become part of
the language go, and the colour a fragment writes is declared.
-/
namespace ShaderPrep.Target.WebGl2

/-- A call of `name`, blanks before its parenthesis allowed, as a call of `new`. -/
def callRule (name new : Text) : Text.Rule := fun s => do
  let rest ← Text.after? name s
  let blanks := rest.takeWhile Unicode.isBlank
  let _ ← Text.after? ['('] (rest.dropWhile Unicode.isBlank)
  return (new ++ ['('], name.length + blanks.length + 1)

def renameCalls (name new : String) : Text → Text :=
  Text.substitute (callRule name.toList new.toList)

/-- The head of the main function up to its parenthesis. -/
def mainRule (new : Text) : Text.Rule := fun s => do
  let rest ← Text.after? "void".toList s
  let blanks := rest.takeWhile Unicode.isBlank
  let rest ← afterBlanks? rest
  let rest ← Text.after? "main".toList rest
  let blanks' := rest.takeWhile Unicode.isBlank
  let _ ← Text.after? ['('] (rest.dropWhile Unicode.isBlank)
  return (new, "void".length + blanks.length + "main".length + blanks'.length + 1)

/-- Extensions that are part of the language by now. -/
def absorbedExtensions : List Text :=
  ["GL_OVR_multiview2", "GL_OES_standard_derivatives", "GL_EXT_shader_texture_lod",
    "GL_EXT_frag_depth", "GL_EXT_draw_buffers"].map String.toList

/-- What follows `word` behind at least one other character. -/
def later? (word s : Text) : Option Text := (Text.cut? word s.tail).map Prod.snd

/-- What follows the last word on the line that switches an extension on. -/
def afterBehaviour? (line : Text) : Option Text :=
  match Text.cutLast? "enable".toList line, Text.cutLast? "require".toList line with
  | some (before, rest), some (before', rest') =>
    some (if before.length ≤ before'.length then rest' else rest)
  | some (_, rest), none | none, some (_, rest) => some rest
  | none, none => none

/-- A line without the extension directive in it, if that switches an absorbed one on. -/
def dropExtension (line : Text) : Text :=
  match Text.cut? "#extension".toList line with
  | none => line
  | some (before, rest) =>
    let switched := absorbedExtensions.any fun name =>
      (later? name rest).any fun rest =>
        (later? "enable".toList rest).isSome || (later? "require".toList rest).isSome
    match switched, afterBehaviour? rest with
    | true, some rest => before ++ rest
    | _, _ => line

def dropExtensions (code : Text) : Text :=
  Text.join ['\n'] ((code.splitOn '\n').map dropExtension)

/-- Whether some line requires several draw buffers. -/
def requiresDrawBuffers (code : Text) : Bool :=
  (code.splitOn '\n').any fun line =>
    (Text.cut? "#extension".toList line).any fun (_, rest) =>
      (later? "GL_EXT_draw_buffers".toList rest).any fun rest =>
        (later? "require".toList rest).isSome

def skipSpaces (s : Text) : Text := s.dropWhile (· = ' ')

/-- Whether a text starts with an output at location 0. -/
def startsOutput (s : Text) : Bool :=
  let parts := ["layout", "(location", "=", "0)", "out"].map String.toList
  (parts.foldlM (fun s part => (Text.after? part s).map skipSpaces) s).isSome

def declaresOutput (code : Text) : Bool := somewhere startsOutput code

/-- The declaration of the colour that a fragment writes. -/
def colorOutput : Text := "layout(location = 0) out vec4 glFragColor;\n".toList

def multiviewHeader : Text :=
  "#extension GL_OVR_multiview2 : require\nlayout (num_views = 2) in;\n".toList

def convertVertex (code : Text) (defines : List Text) : Text :=
  let code := renameCalls "texture2D" "texture" (dropExtensions code)
  if defines.contains "#define MULTIVIEW".toList then multiviewHeader ++ code else code

def renameOutputs (code : Text) : Text :=
  code
    |> Text.replaceAll "gl_FragDepthEXT".toList "gl_FragDepth".toList
    |> Text.replaceAll "gl_FragColor".toList "glFragColor".toList
    |> Text.replaceAll "gl_FragData".toList "glFragData".toList

def convertFragment (code : Text) : Text :=
  let converted := renameCalls "texture2D" "texture" (dropExtensions code)
  let declared := requiresDrawBuffers code || declaresOutput converted
  converted
    |> renameCalls "texture2DLodEXT" "textureLod"
    |> renameCalls "textureCubeLodEXT" "textureLod"
    |> renameCalls "textureCube" "texture"
    |> renameOutputs
    |> Text.substitute (mainRule ((if declared then [] else colorOutput) ++ "void main(".toList))

/-- Every line that mentions a varying counts as declaring one. -/
def target : Target σ where
  isVarying line _ _ := some (Text.occurs "varying".toList line)
  onAttribute line _ state := (some (Text.replaceFirst "attribute".toList "in".toList line), state)
  onVarying line isFragment _ state :=
    let direction := if isFragment then "in".toList else "out".toList
    (some (Text.replaceFirst "varying".toList direction line), state)
  afterConditionals code defines isFragment _ state :=
    (some (if isFragment then convertFragment code else convertVertex code defines), state)

end ShaderPrep.Target.WebGl2
