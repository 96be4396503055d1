import ShaderPrep.Target.Line

/-! Targets that answer from what they are asked alone. Their state may change with every hook, but
no answer shows it; what a line becomes then depends on the symbols and on whether a uniform block
is open, and on nothing else that happened before. -/
namespace ShaderPrep

/-- The hook may change the state, but its answer is the same in every one. -/
def Hook.Fixed (hook : Hook σ α) : Prop := ∀ s s', (hook s).1 = (hook s').1

namespace Target

/-- No answer that processing asks for depends on the state. -/
structure Memoryless (t : Target σ) : Prop where
  language : ∀ s s', t.language s = t.language s'
  skipsPrecision : ∀ s s', t.skipsPrecision s = t.skipsPrecision s'
  convertsVersion3 : ∀ s s', t.convertsVersion3 s = t.convertsVersion3 s'
  attributeKeyword : ∀ s s', t.attributeKeyword s = t.attributeKeyword s'
  varyingVertexKeyword : ∀ s s', t.varyingVertexKeyword s = t.varyingVertexKeyword s'
  varyingFragmentKeyword : ∀ s s', t.varyingFragmentKeyword s = t.varyingFragmentKeyword s'
  uniformLines : ∀ s s', t.uniformLines s = t.uniformLines s'
  blockLines : ∀ s s', t.blockLines s = t.blockLines s'
  textureLines : ∀ s s', t.textureLines s = t.textureLines s'
  isVarying : ∀ line isFragment s s', t.isVarying line isFragment s = t.isVarying line isFragment s'
  onSource : ∀ source isFragment, (t.onSource source isFragment).Fixed
  onLine : ∀ line isFragment, (t.onLine line isFragment).Fixed
  onAttribute : ∀ line symbols, (t.onAttribute line symbols).Fixed
  onVarying : ∀ line isFragment symbols, (t.onVarying line isFragment symbols).Fixed
  onUniform : ∀ line isFragment symbols, (t.onUniform line isFragment symbols).Fixed
  onBlockStart : ∀ line isFragment, (t.onBlockStart line isFragment).Fixed
  onBlockEnd : ∀ line isFragment, (t.onBlockEnd line isFragment).Fixed
  onTexture : ∀ line isFragment symbols, (t.onTexture line isFragment symbols).Fixed
  beforeConditionals : ∀ source defines symbols isFragment,
    (t.beforeConditionals source defines symbols isFragment).Fixed
  afterConditionals : ∀ source defines isFragment engine,
    (t.afterConditionals source defines isFragment engine).Fixed

/-- A target without a state of its own. -/
theorem memoryless_of_subsingleton [Subsingleton σ] (t : Target σ) : t.Memoryless := by
  have same {α : Type} (f : σ → α) (s s' : σ) : f s = f s' := congrArg f (Subsingleton.elim s s')
  exact {
    language := same _
    skipsPrecision := same _
    convertsVersion3 := same _
    attributeKeyword := same _
    varyingVertexKeyword := same _
    varyingFragmentKeyword := same _
    uniformLines := same _
    blockLines := same _
    textureLines := same _
    isVarying := fun _ _ => same _
    onSource := fun _ _ => same _
    onLine := fun _ _ => same _
    onAttribute := fun _ _ => same _
    onVarying := fun _ _ _ => same _
    onUniform := fun _ _ _ => same _
    onBlockStart := fun _ _ => same _
    onBlockEnd := fun _ _ => same _
    onTexture := fun _ _ _ => same _
    beforeConditionals := fun _ _ _ _ => same _
    afterConditionals := fun _ _ _ _ => same _ }

/-- From states with the same block open, both come to the same result and leave the same block
open. -/
def Parallel (x y : StateM (LineState σ) α) : Prop :=
  ∀ s s', s.inBlock = s'.inBlock → (x s).1 = (y s').1 ∧ (x s).2.inBlock = (y s').2.inBlock

theorem Parallel.bind {x y : StateM (LineState σ) α} {f g : α → StateM (LineState σ) β}
    (first : Parallel x y) (next : ∀ a, Parallel (f a) (g a)) : Parallel (x >>= f) (y >>= g) := by
  intro s s' same
  obtain ⟨value, left⟩ := first s s' same
  change (f (x s).1 (x s).2).1 = (g (y s').1 (y s').2).1 ∧
    (f (x s).1 (x s).2).2.inBlock = (g (y s').1 (y s').2).2.inBlock
  rw [value]
  exact next _ _ _ left

theorem Parallel.pure (a : α) : Parallel (σ := σ) (pure a) (pure a) := fun _ _ same => ⟨rfl, same⟩

theorem Parallel.get {f g : LineState σ → StateM (LineState σ) α}
    (next : ∀ s s', s.inBlock = s'.inBlock → Parallel (f s) (g s')) :
    Parallel (MonadState.get >>= f) (MonadState.get >>= g) :=
  fun s s' same => next s s' same s s' same

theorem Parallel.ask {hook : Hook σ α} (fixed : hook.Fixed) :
    Parallel (Target.ask hook) (Target.ask hook) := fun _ _ same => ⟨fixed _ _, same⟩

theorem Parallel.setInBlock (inBlock : Bool) :
    Parallel (σ := σ) (modify fun s => { s with inBlock }) (modify fun s => { s with inBlock }) :=
  fun _ _ _ => ⟨rfl, rfl⟩

section Lines
variable {t : Target σ} (isFragment : Bool) (symbols : Symbols) (line : Text)

theorem Memoryless.varyingKeyword (fixed : t.Memoryless) (s s' : σ) :
    t.varyingKeyword isFragment s = t.varyingKeyword isFragment s' := by
  cases isFragment with
  | false => exact fixed.varyingVertexKeyword s s'
  | true => exact fixed.varyingFragmentKeyword s s'

theorem Memoryless.declaresVarying (fixed : t.Memoryless) (s s' : σ) :
    t.declaresVarying isFragment line s = t.declaresVarying isFragment line s' := by
  rw [Target.declaresVarying, Target.declaresVarying, fixed.isVarying line isFragment s s',
    fixed.varyingKeyword isFragment s s']

theorem Memoryless.declaration (fixed : t.Memoryless) (s s' : σ) :
    t.declaration line s = t.declaration line s' := by
  rw [Target.declaration, Target.declaration, fixed.uniformLines s s', fixed.blockLines s s',
    fixed.textureLines s s']

theorem Memoryless.editInterface (fixed : t.Memoryless) :
    Parallel (t.editInterface isFragment symbols line)
      (t.editInterface isFragment symbols line) := by
  refine .get fun s s' same => ?_
  dsimp only
  rw [fixed.attributeKeyword s.target s'.target,
    fixed.declaresVarying isFragment line s.target s'.target]
  have varying (answer : Option Text) :
      Parallel
        (if answer.isNone && t.declaresVarying isFragment line s'.target then
          Target.ask (t.onVarying line isFragment symbols) else pure answer)
        (if answer.isNone && t.declaresVarying isFragment line s'.target then
          Target.ask (t.onVarying line isFragment symbols) else pure answer) := by
    split
    · exact .ask (fixed.onVarying line isFragment symbols)
    · exact .pure answer
  split
  · exact .bind (.ask (fixed.onAttribute line symbols)) varying
  · exact .bind (.pure none) varying

theorem Memoryless.editDeclaration (fixed : t.Memoryless) (declared : Declaration) :
    Parallel (t.editDeclaration isFragment symbols line declared)
      (t.editDeclaration isFragment symbols line declared) := by
  cases declared with
  | uniform =>
    refine .get fun s s' same => ?_
    rw [same]
    split
    · exact .pure none
    · exact .ask (fixed.onUniform line isFragment symbols)
  | block =>
    refine .get fun s s' same => ?_
    rw [same]
    split
    · exact .pure none
    · exact .bind (.ask (fixed.onBlockStart line isFragment)) fun answer =>
        .bind (.setInBlock _) fun _ => .pure answer
  | texture => exact .ask (fixed.onTexture line isFragment symbols)
  | other => exact .pure none

theorem Memoryless.closeBlock (fixed : t.Memoryless) :
    Parallel (t.closeBlock isFragment line) (t.closeBlock isFragment line) := by
  refine .get fun s s' same => ?_
  rw [same]
  split
  · exact .bind (.setInBlock _) fun _ => .ask (fixed.onBlockEnd line isFragment)
  · exact .pure none

/-- A line is edited alike in states with the same block open. -/
theorem Memoryless.editLine (fixed : t.Memoryless) :
    Parallel (t.editLine isFragment symbols line) (t.editLine isFragment symbols line) := by
  refine .bind (.ask (fixed.onLine line isFragment)) fun first => .get fun s s' _ => ?_
  rw [fixed.declaration line s.target s'.target]
  have closing (answer : Option Text) :
      Parallel
        (do return (← t.closeBlock isFragment line).getD (answer.getD (first.getD line)))
        (do return (← t.closeBlock isFragment line).getD (answer.getD (first.getD line))) :=
    .bind (fixed.closeBlock isFragment line) fun _ => .pure _
  refine .bind (fixed.editInterface isFragment symbols line) fun interface => ?_
  dsimp only
  split
  · exact .bind (.pure interface) closing
  · exact .bind (fixed.editDeclaration isFragment symbols line _) closing

theorem lineEdit_parallel {t : Option (Target σ)} (fixed : ∀ t' ∈ t, t'.Memoryless) :
    Parallel (lineEdit t isFragment symbols line) (lineEdit t isFragment symbols line) := by
  cases t with
  | none => exact .pure line
  | some t => exact (fixed t rfl).editLine isFragment symbols line

end Lines
end Target
end ShaderPrep
