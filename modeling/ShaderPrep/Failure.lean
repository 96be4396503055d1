import ShaderPrep.Text.Basic

/-!
Why a run fails. A malformed condition is no failure; only missing sources, a replacement that is
no pattern, bottomless includes and unreadable settings are.
-/
namespace ShaderPrep

inductive Cause where
  | includeNotFound (name url : Text)
  | loadFailed (url reason : Text)
  | invalidReplacement (pattern reason : Text)
  | includeDepthExceeded (depth : Nat)
  | shaderNotFound (name : Text)
  | configuration (reason : Text)
  deriving DecidableEq, Repr

def Cause.message : Cause → Text
  | includeNotFound name url =>
    "include '".toList ++ name ++ "' not found (looked for ".toList ++ url ++ [')']
  | loadFailed url reason => "cannot load '".toList ++ url ++ "': ".toList ++ reason
  | invalidReplacement pattern reason =>
    "invalid include replacement pattern '".toList ++ pattern ++ "': ".toList ++ reason
  | includeDepthExceeded depth =>
    "include nesting deeper than ".toList ++ Text.ofNat depth ++ " levels".toList
  | shaderNotFound name => "shader '".toList ++ name ++ "' not found".toList
  | configuration reason => "invalid configuration: ".toList ++ reason

/-- A cause, with the name of the shader or include it arose in when that is known. -/
structure Failure where
  cause : Cause
  shader : Option Text := none
  deriving DecidableEq, Repr

namespace Failure

/-- Attaches a name; the innermost one stays. -/
def inShader (failure : Failure) (name : Text) : Failure :=
  { failure with shader := failure.shader.or (some name) }

def message (failure : Failure) : Text :=
  match failure.shader with
  | none => failure.cause.message
  | some name => failure.cause.message ++ " (in ".toList ++ name ++ [')']

end Failure
end ShaderPrep
