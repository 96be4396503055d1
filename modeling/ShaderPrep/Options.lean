import ShaderPrep.Settings
import ShaderPrep.Target.Basic

/-!
The settings of a run with the target and the hook on resolved sources, and what they decide before
anything is converted: the precision that a source declares, and the symbols that a run starts with.
-/
namespace ShaderPrep

structure Options (σ : Type) extends Settings where
  target : Option (Target σ) := none
  /-- Changes a source once its includes are resolved, with the stage and the defines given. -/
  afterIncludes : Option (Stage → Text → List Text → Text) := none

namespace Options

def language? (o : Options σ) (state : σ) : Option Language := o.target.map (·.language state)

def highPrecisionMark : Text := "precision highp float".toList

def mediumPrecisionMark : Text := "precision mediump float".toList

/-- A source without high precision gets the one asked for in front; high precision that was not
asked for is lowered where it is declared first. -/
def withPrecision (o : Options σ) (state : σ) (source : Text) : Text :=
  if o.target.any (·.skipsPrecision state) then source
  else if !Text.occurs highPrecisionMark source then
    (if o.highPrecision then highPrecisionMark else mediumPrecisionMark) ++ ";\n".toList ++ source
  else if o.highPrecision then source
  else Text.replaceFirst highPrecisionMark mediumPrecisionMark source

def setIf (condition : Bool) (name value : Text) (symbols : Symbols) : Symbols :=
  if condition then symbols.insert name value else symbols

/-- The symbols a run starts with. Later sources win: the defines, the conventions for depth, the
mark of the shading language, the version, the platform, and last the host. -/
def symbols (o : Options σ) (engine : Option Engine) (state : σ) : Symbols :=
  let symbols := Symbols.ofEntries o.defines
    |> setIf o.isNdcHalfZRange "IS_NDC_HALF_ZRANGE".toList []
    |> setIf o.useReverseDepthBuffer "USE_REVERSE_DEPTHBUFFER".toList []
    |> setIf (o.language? state = some .glsl) "GL_ES".toList "true".toList
  let symbols := (symbols.insert "__VERSION__".toList o.version).insert o.platform "true".toList
  match engine with
  | none => symbols
  | some engine => engine.globals symbols

end Options
end ShaderPrep
