import ShaderPrep.Engine

/-!
Targets: the rules of one shading platform, applied to single lines and to whole sources. Every
hook may decline, which leaves the text as it is, and may change a state `σ` of the target.
-/
namespace ShaderPrep

/-- The shading language of a target. -/
inductive Language where
  | glsl
  | wgsl
  deriving DecidableEq, Repr

def Language.label : Language → Text
  | glsl => "GLSL".toList
  | wgsl => "WGSL".toList

/-- A hook answers with a new text or declines. -/
abbrev Hook (σ α : Type) := σ → Option α × σ

/-- The hook that always declines. -/
def Hook.absent : Hook σ α := fun state => (none, state)

structure Target (σ : Type) where
  language : σ → Language := fun _ => .glsl
  /-- Leaves the precision of sources alone. -/
  skipsPrecision : σ → Bool := fun _ => false
  /-- Converts sources that are marked for the third version already. -/
  convertsVersion3 : σ → Bool := fun _ => false
  attributeKeyword : σ → Text := fun _ => "attribute".toList
  varyingVertexKeyword : σ → Text := fun _ => "varying".toList
  varyingFragmentKeyword : σ → Text := fun _ => "varying".toList
  /-- Which lines the uniform hook claims. -/
  uniformLines : σ → Option (Text → Bool) := fun _ => none
  /-- Which lines open a uniform block. -/
  blockLines : σ → Option (Text → Bool) := fun _ => none
  textureLines : σ → Option (Text → Bool) := fun _ => none
  /-- Whether a line declares a varying; without an answer its keyword decides. -/
  isVarying : Text → Bool → σ → Option Bool := fun _ _ _ => none
  /-- Sets the state up before an effect is processed. -/
  setUp : σ → σ := id
  /-- Changes a source before its includes are resolved. -/
  onSource : Text → Bool → Hook σ Text := fun _ _ => .absent
  /-- Sees every line before the other hooks. -/
  onLine : Text → Bool → Hook σ Text := fun _ _ => .absent
  onAttribute : Text → Symbols → Hook σ Text := fun _ _ => .absent
  onVarying : Text → Bool → Symbols → Hook σ Text := fun _ _ _ => .absent
  onUniform : Text → Bool → Symbols → Hook σ Text := fun _ _ _ => .absent
  onBlockStart : Text → Bool → Hook σ Text := fun _ _ => .absent
  onBlockEnd : Text → Bool → Hook σ Text := fun _ _ => .absent
  onTexture : Text → Bool → Symbols → Hook σ Text := fun _ _ _ => .absent
  /-- Changes a source just before its conditionals are evaluated. -/
  beforeConditionals : Text → List Text → Symbols → Bool → Hook σ Text := fun _ _ _ _ => .absent
  /-- Changes a source just after its conditionals are evaluated. -/
  afterConditionals : Text → List Text → Bool → Option Engine → Hook σ Text :=
    fun _ _ _ _ => .absent
  /-- Changes both stages together at the end. -/
  onFinish : Text → Text → Hook σ (Text × Text) := fun _ _ => .absent

namespace Target

/-- A target without hooks. -/
def plain (language : Language) : Target σ := { language := fun _ => language }

def varyingKeyword (t : Target σ) (isFragment : Bool) (state : σ) : Text :=
  if isFragment then t.varyingFragmentKeyword state else t.varyingVertexKeyword state

end Target
end ShaderPrep
