import ShaderPrep.Table

/-! The plain settings of a run, those that a file can give, with their defaults. -/
namespace ShaderPrep

inductive Stage where
  | vertex
  | fragment
  | compute
  deriving DecidableEq, Repr

namespace Stage

def ofIsFragment (isFragment : Bool) : Stage := if isFragment then fragment else vertex

def name : Stage → Text
  | vertex => "vertex".toList
  | fragment => "fragment".toList
  | compute => "compute".toList

/-- What the store appends to a shader's name for the stage. -/
def storeSuffix : Stage → Text
  | vertex => "VertexShader".toList
  | fragment => "FragmentShader".toList
  | compute => "ComputeShader".toList

/-- What a file of the stage ends in. -/
def fileExtension (stage : Stage) : Text := stage.name ++ ".fx".toList

end Stage

structure Settings where
  /-- Entries that define symbols. -/
  defines : List Text := []
  /-- Named upper bounds of include ranges. -/
  indexParameters : Table Int := ∅
  isFragment : Bool := false
  highPrecision : Bool := false
  supportsUniformBuffers : Bool := false
  /-- What every location of a shader or include starts with. -/
  repository : Text := []
  version : Text := "300".toList
  platform : Text := "WEBGL2".toList
  isNdcHalfZRange : Bool := false
  useReverseDepthBuffer : Bool := false

namespace Settings

def stage (settings : Settings) : Stage := .ofIsFragment settings.isFragment

end Settings
end ShaderPrep
