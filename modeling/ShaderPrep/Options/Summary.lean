import ShaderPrep.Options
import ShaderPrep.Text.Quoted

/-!
Options on one line, for a reader: the settings that tell one run from another, and the language
of the target if there is one.
-/
namespace ShaderPrep

def ofBool (value : Bool) : Text := if value then "true".toList else "false".toList

def Language.summary : Language → Text
  | glsl => "Glsl".toList
  | wgsl => "Wgsl".toList

namespace Options

def targetSummary (o : Options σ) (state : σ) : Text :=
  match o.language? state with
  | none => "None".toList
  | some language => "Some(".toList ++ language.summary ++ [')']

def definesSummary (o : Options σ) : Text :=
  ['['] ++ Text.join ", ".toList (o.defines.map Text.quoted) ++ [']']

/-- The bounds of include ranges, by name. -/
def boundsSummary (o : Options σ) : Text :=
  let entries := o.indexParameters.sorted.map fun (name, bound) =>
    Text.quoted name ++ ": ".toList ++ Text.ofInt bound
  ['\x7b'] ++ Text.join ", ".toList entries ++ ['\x7d']

/-- Named values in the order in which a summary shows them. -/
def summaryFields (o : Options σ) (state : σ) : List (String × Text) :=
  [("defines", o.definesSummary),
    ("index_parameters", o.boundsSummary),
    ("is_fragment", ofBool o.isFragment),
    ("should_use_high_precision_shader", ofBool o.highPrecision),
    ("supports_uniform_buffers", ofBool o.supportsUniformBuffers),
    ("shaders_repository", Text.quoted o.repository),
    ("version", Text.quoted o.version),
    ("platform_name", Text.quoted o.platform),
    ("processor", o.targetSummary state)]

/-- The line; two dots stand for all that it leaves out. -/
def summary (o : Options σ) (state : σ) : Text :=
  let fields := (o.summaryFields state).map fun (name, value) =>
    name.toList ++ ": ".toList ++ value ++ ", ".toList
  "ProcessingOptions \x7b ".toList ++ fields.flatten ++ ".. \x7d".toList

end Options
end ShaderPrep
