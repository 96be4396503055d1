import ShaderPrep.Json.Reader
import ShaderPrep.Target.Basic

/-! Shading languages in JSON: a language is spelled by its name, or as a record with it alone. -/
namespace ShaderPrep.Language

def spelling : Language → Text
  | glsl => "glsl".toList
  | wgsl => "wgsl".toList

def ofSpelling? (name : Text) : Option Language := [glsl, wgsl].find? (·.spelling == name)

def ofJson? : Json.Value → Option Language
  | .string (some name) => ofSpelling? name
  | .record [(some name, .null)] => ofSpelling? name
  | _ => none

/-- The language that a text spells; the reason of a refusal is worded by this library. -/
def read (text : Text) : Except Failure Language :=
  match Json.read text >>= ofJson? with
  | none => .error { cause := .configuration "not a shading language".toList }
  | some language => .ok language

def toJson (language : Language) : Text := ['"'] ++ language.spelling ++ ['"']

end ShaderPrep.Language
