import ShaderPrep.Pattern.Match
import ShaderPrep.Target.Basic
import ShaderPrep.Text.Substitute

/-!
Targets whose hooks are given by templates. The target counts the calls of its hooks and keeps
their names, so that a template can show the counts and a host can follow what was called.
-/
namespace ShaderPrep.Target.Templated

/-- The text of a hook, if a condition on the given line holds when there is one. -/
structure Reply where
  template : Text
  /-- What the line must contain. -/
  needs : Option Text := none

/-- What the target has been asked so far. -/
structure Calls where
  hooks : Nat := 0
  setUps : Nat := 0
  /-- The names of the hooks called, in order. -/
  names : List Text := []

/-- The hooks that a target has, and its other rules. -/
structure Rules where
  language : Language := .glsl
  skipsPrecision : Bool := false
  convertsVersion3 : Bool := false
  attributeKeyword : Text := "attribute".toList
  varyingVertexKeyword : Text := "varying".toList
  varyingFragmentKeyword : Text := "varying".toList
  uniformLines : Option Pattern := none
  blockLines : Option Pattern := none
  textureLines : Option Pattern := none
  /-- What a line that declares a varying contains. -/
  varyingMark : Option Text := none
  onSource : Option Reply := none
  onLine : Option Reply := none
  onAttribute : Option Reply := none
  onVarying : Option Reply := none
  onUniform : Option Reply := none
  onBlockStart : Option Reply := none
  onBlockEnd : Option Reply := none
  onTexture : Option Reply := none
  beforeConditionals : Option Reply := none
  afterConditionals : Option Reply := none
  /-- The vertex and the fragment stage at the end. -/
  onFinish : Option (Option Reply × Option Reply) := none

/-- The stage as a placeholder shows it. -/
def stageValue (isFragment : Bool) : Char × Text := ('S', if isFragment then ['f'] else ['v'])

def symbolsValue (symbols : Symbols) : Char × Text :=
  ('Y', Text.join [','] (symbols.sorted.map fun (name, value) => name ++ ['='] ++ value))

def definesValue (defines : List Text) : Char × Text := ('D', Text.join ['|'] defines)

def engineValue (engine : Option Engine) : Char × Text :=
  ('E', if engine.isSome then ['1'] else ['0'])

/-- The reply to a line. A hook without a reply is not called. -/
def answer (name : String) (reply : Option Reply) (line : Text) (values : Text.Values) :
    Hook Calls Text := fun calls =>
  match reply with
  | none => (none, calls)
  | some reply =>
    let calls := { calls with hooks := calls.hooks + 1, names := calls.names ++ [name.toList] }
    let counts := [('L', line), ('N', Text.ofNat calls.hooks), ('I', Text.ofNat calls.setUps)]
    if reply.needs.all fun needed => Text.occurs needed line then
      (some (Text.fill reply.template (counts ++ values)), calls)
    else (none, calls)

/-- Both replies at the end; the second is not asked for if the first declines. -/
def answerBoth (replies : Option (Option Reply × Option Reply)) (vertex fragment : Text) :
    Hook Calls (Text × Text) := fun calls =>
  match replies with
  | none => (none, calls)
  | some (first, second) =>
    match answer "finalize_shaders" first vertex [] calls with
    | (none, calls) => (none, calls)
    | (some vertex, calls) =>
      let (fragment, calls) := answer "finalize_shaders" second fragment [] calls
      (fragment.map fun fragment => (vertex, fragment), calls)

def target (r : Rules) : Target Calls where
  language _ := r.language
  skipsPrecision _ := r.skipsPrecision
  convertsVersion3 _ := r.convertsVersion3
  attributeKeyword _ := r.attributeKeyword
  varyingVertexKeyword _ := r.varyingVertexKeyword
  varyingFragmentKeyword _ := r.varyingFragmentKeyword
  uniformLines _ := r.uniformLines.map Pattern.occurs
  blockLines _ := r.blockLines.map Pattern.occurs
  textureLines _ := r.textureLines.map Pattern.occurs
  isVarying line _ _ := r.varyingMark.map fun mark => Text.occurs mark line
  setUp calls :=
    { calls with
      setUps := calls.setUps + 1, names := calls.names ++ ["initialize_shaders".toList] }
  onSource code isFragment :=
    answer "pre_process_shader_code" r.onSource code [stageValue isFragment]
  onLine line isFragment := answer "line_processor" r.onLine line [stageValue isFragment]
  onAttribute line symbols :=
    answer "attribute_processor" r.onAttribute line [symbolsValue symbols]
  onVarying line isFragment symbols :=
    answer "varying_processor" r.onVarying line [stageValue isFragment, symbolsValue symbols]
  onUniform line isFragment symbols :=
    answer "uniform_processor" r.onUniform line [stageValue isFragment, symbolsValue symbols]
  onBlockStart line isFragment :=
    answer "uniform_buffer_processor" r.onBlockStart line [stageValue isFragment]
  onBlockEnd line isFragment :=
    answer "end_of_uniform_buffer_processor" r.onBlockEnd line [stageValue isFragment]
  onTexture line isFragment symbols :=
    answer "texture_processor" r.onTexture line [stageValue isFragment, symbolsValue symbols]
  beforeConditionals code defines symbols isFragment :=
    answer "pre_processor" r.beforeConditionals code
      [stageValue isFragment, definesValue defines, symbolsValue symbols]
  afterConditionals code defines isFragment engine :=
    answer "post_processor" r.afterConditionals code
      [stageValue isFragment, definesValue defines, engineValue engine]
  onFinish := answerBoth r.onFinish

end ShaderPrep.Target.Templated
