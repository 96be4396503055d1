import ShaderPrep.Target.Basic
import ShaderPrep.Target.Uniform
import ShaderPrep.Tree.Render

/-!
One line through the hooks of a target. The line as it stands in the source decides which hooks
see it; of the answers the last one counts. A uniform block lasts from the line its hook changed
to the next line with a closing brace.
-/
namespace ShaderPrep

/-- The state of the target, and whether a uniform block is open. -/
structure LineState (σ : Type) where
  target : σ
  inBlock : Bool := false

namespace Target

/-- Lets a hook of the target work on its state. -/
def ask (hook : Hook σ α) : StateM (LineState σ) (Option α) := fun s =>
  let (answer, target) := hook s.target
  (answer, { s with target })

/-- What a line declares, attributes and varyings apart. -/
inductive Declaration where
  | uniform
  | block
  | texture
  | other
  deriving DecidableEq, Repr

/-- The patterns of the target come first; a line they do not claim is a uniform or opens a block
if it starts with that keyword. -/
def declaration (t : Target σ) (line : Text) (state : σ) : Declaration :=
  if (t.uniformLines state).any (· line) then .uniform
  else if (t.blockLines state).any (· line) then .block
  else if (t.textureLines state).any (· line) then .texture
  else if Text.begins "uniform".toList line then
    if isPlainUniform line then .uniform else .block
  else .other

/-- Whether the line declares a varying. -/
def declaresVarying (t : Target σ) (isFragment : Bool) (line : Text) (state : σ) : Bool :=
  (t.isVarying line isFragment state).getD (Text.begins (t.varyingKeyword isFragment state) line)

/-- The attribute hook on an attribute of the vertex stage, else the varying hook on a varying. -/
def editInterface (t : Target σ) (isFragment : Bool) (symbols : Symbols) (line : Text) :
    StateM (LineState σ) (Option Text) := do
  let state := (← get).target
  let answer ←
    if !isFragment && Text.begins (t.attributeKeyword state) line then
      ask (t.onAttribute line symbols)
    else pure none
  if answer.isNone && t.declaresVarying isFragment line state then
    ask (t.onVarying line isFragment symbols)
  else return answer

/-- The hook for what the line declares; inside a block only textures have one. -/
def editDeclaration (t : Target σ) (isFragment : Bool) (symbols : Symbols) (line : Text) :
    Declaration → StateM (LineState σ) (Option Text)
  | .uniform => do
    if (← get).inBlock then return none
    else ask (t.onUniform line isFragment symbols)
  | .block => do
    if (← get).inBlock then return none
    else
      let answer ← ask (t.onBlockStart line isFragment)
      modify fun s => { s with inBlock := answer.isSome }
      return answer
  | .texture => ask (t.onTexture line isFragment symbols)
  | .other => return none

/-- Closes an open block at a closing brace. -/
def closeBlock (t : Target σ) (isFragment : Bool) (line : Text) :
    StateM (LineState σ) (Option Text) := do
  if (← get).inBlock && line.contains '}' then
    modify fun s => { s with inBlock := false }
    ask (t.onBlockEnd line isFragment)
  else return none

/-- All hooks for one line, in order. -/
def lineHooks (t : Target σ) (isFragment : Bool) (symbols : Symbols) (line : Text) :
    StateM (LineState σ) Text := do
  let first ← ask (t.onLine line isFragment)
  let declared := t.declaration line (← get).target
  let interface ← t.editInterface isFragment symbols line
  let answer ←
    if interface.isSome then pure interface
    else t.editDeclaration isFragment symbols line declared
  let last ← t.closeBlock isFragment line
  return last.getD (answer.getD (first.getD line))

def editLine (t : Target σ) (isFragment : Bool) : Tree.LineEdit (LineState σ) :=
  fun symbols line state => t.lineHooks isFragment symbols line state

/-- Lines under a target, if there is one. -/
def lineEdit (t : Option (Target σ)) (isFragment : Bool) : Tree.LineEdit (LineState σ) :=
  match t with
  | none => Tree.keepLines
  | some t => t.editLine isFragment

end Target
end ShaderPrep
