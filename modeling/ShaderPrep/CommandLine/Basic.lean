import ShaderPrep.Text.Basic

/-! What a command line asks for. -/
namespace ShaderPrep.CommandLine

/-- The target named on a command line. -/
inductive TargetName where
  | webGl2
  | glsl
  | wgsl
  | none
  deriving DecidableEq, Repr

namespace TargetName

def all : List TargetName := [webGl2, glsl, wgsl, none]

def spelling : TargetName → Text
  | webGl2 => "webgl2".toList
  | glsl => "glsl".toList
  | wgsl => "wgsl".toList
  | none => "none".toList

def ofSpelling? (name : Text) : Option TargetName := all.find? (·.spelling == name)

end TargetName

/-- What is done to a file. -/
inductive Task where
  | process
  | preprocess
  deriving DecidableEq, Repr

def Task.name : Task → Text
  | process => "process".toList
  | preprocess => "preprocess".toList

/-- A file and what is to be done to it. -/
structure Job where
  task : Task
  file : Text
  defines : List Text := []
  /-- A file with settings, which those given here add to or replace. -/
  config : Option Text := none
  repository : Option Text := none
  target : TargetName := .webGl2
  isFragment : Bool := false
  highPrecision : Bool := false
  supportsUniformBuffers : Bool := false
  platform : Option Text := none
  version : Option Text := none
  /-- The file that takes the result instead of the standard output. -/
  output : Option Text := none
  deriving DecidableEq, Repr

inductive Command where
  /-- Tells whether a condition holds under some defines. -/
  | eval (condition : Text) (defines : List Text)
  | work (job : Job)
  | version
  | help
  deriving DecidableEq, Repr

end ShaderPrep.CommandLine
