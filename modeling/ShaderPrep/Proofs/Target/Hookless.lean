import ShaderPrep.Target.Line

/-! Targets without hooks. They leave every line as it is. -/
namespace ShaderPrep.Target
variable {σ : Type}

/-- Targets that have no hooks. -/
inductive Hookless : Option (Target σ) → Prop
  | none : Hookless none
  | plain (language : Language) : Hookless (some (.plain language))

/-- Targets whose hooks on sources and lines always decline. Keywords, patterns and the rest of the
target are free, and so is the hook at the end, which sees no line. -/
structure Silent (t : Target σ) : Prop where
  onSource : ∀ source isFragment, t.onSource source isFragment = .absent
  onLine : ∀ line isFragment, t.onLine line isFragment = .absent
  onAttribute : ∀ line symbols, t.onAttribute line symbols = .absent
  onVarying : ∀ line isFragment symbols, t.onVarying line isFragment symbols = .absent
  onUniform : ∀ line isFragment symbols, t.onUniform line isFragment symbols = .absent
  onBlockStart : ∀ line isFragment, t.onBlockStart line isFragment = .absent
  onBlockEnd : ∀ line isFragment, t.onBlockEnd line isFragment = .absent
  onTexture : ∀ line isFragment symbols, t.onTexture line isFragment symbols = .absent
  beforeConditionals : ∀ source defines symbols isFragment,
    t.beforeConditionals source defines symbols isFragment = .absent
  afterConditionals : ∀ source defines isFragment engine,
    t.afterConditionals source defines isFragment engine = .absent

theorem silent_plain (language : Language) : (plain language : Target σ).Silent := by
  constructor <;> intros <;> rfl

theorem Hookless.silent {t : Option (Target σ)} (hookless : Hookless t) : ∀ t' ∈ t, t'.Silent := by
  cases hookless with
  | none => exact nofun
  | plain language =>
    rintro _ ⟨⟩
    exact silent_plain language

theorem ask_absent {α : Type} : (ask (Hook.absent : Hook σ α)) = pure none := rfl

/-- Targets whose hooks for uniforms, their blocks and textures always decline. -/
structure PassesDeclarations (t : Target σ) : Prop where
  onUniform : ∀ line isFragment symbols, t.onUniform line isFragment symbols = .absent
  onBlockStart : ∀ line isFragment, t.onBlockStart line isFragment = .absent
  onBlockEnd : ∀ line isFragment, t.onBlockEnd line isFragment = .absent
  onTexture : ∀ line isFragment symbols, t.onTexture line isFragment symbols = .absent

theorem Silent.passesDeclarations {t : Target σ} (h : t.Silent) : t.PassesDeclarations :=
  ⟨h.onUniform, h.onBlockStart, h.onBlockEnd, h.onTexture⟩

section Silent
variable {t : Target σ} (isFragment : Bool) (symbols : Symbols) (line : Text) (s : LineState σ)

namespace PassesDeclarations

theorem editDeclaration (h : t.PassesDeclarations) (declared : Declaration) :
    (t.editDeclaration isFragment symbols line declared s).1 = none := by
  cases declared with
  | uniform =>
    rw [Target.editDeclaration, h.onUniform]
    change ((if s.inBlock then _ else _ : StateM (LineState σ) (Option Text)) s).1 = none
    cases s.inBlock <;> rfl
  | block =>
    rw [Target.editDeclaration, h.onBlockStart]
    change ((if s.inBlock then _ else _ : StateM (LineState σ) (Option Text)) s).1 = none
    cases s.inBlock <;> rfl
  | texture =>
    rw [Target.editDeclaration, h.onTexture]
    rfl
  | other => rfl

theorem closeBlock (h : t.PassesDeclarations) : (t.closeBlock isFragment line s).1 = none := by
  rw [Target.closeBlock, h.onBlockEnd]
  change ((if s.inBlock && line.contains '}' then _ else _ :
    StateM (LineState σ) (Option Text)) s).1 = none
  cases s.inBlock && line.contains '}' <;> rfl

end PassesDeclarations

namespace Silent

theorem editInterface (h : t.Silent) :
    t.editInterface isFragment symbols line = pure none := by
  rw [Target.editInterface, h.onAttribute, h.onVarying, ask_absent]
  simp only [ite_self, pure_bind]
  rfl

theorem editDeclaration (h : t.Silent) (declared : Declaration) :
    (t.editDeclaration isFragment symbols line declared s).1 = none :=
  h.passesDeclarations.editDeclaration isFragment symbols line s declared

theorem closeBlock (h : t.Silent) : (t.closeBlock isFragment line s).1 = none :=
  h.passesDeclarations.closeBlock isFragment line s

theorem editLine (h : t.Silent) : (t.editLine isFragment symbols line s).1 = line := by
  rw [Target.editLine, lineHooks, h.onLine, ask_absent, h.editInterface]
  simp only [pure_bind]
  change (((t.closeBlock isFragment line _).1.getD
    ((t.editDeclaration isFragment symbols line _ s).1.getD _))) = line
  rw [h.closeBlock, h.editDeclaration]
  rfl

end Silent

theorem lineEdit_silent {t : Option (Target σ)} (silent : ∀ t' ∈ t, t'.Silent) :
    (lineEdit t isFragment symbols line s).1 = line := by
  cases t with
  | none => rfl
  | some t => exact (silent t rfl).editLine isFragment symbols line s

theorem lineEdit_hookless {t : Option (Target σ)} (hookless : Hookless t) :
    (lineEdit t isFragment symbols line s).1 = line :=
  lineEdit_silent isFragment symbols line s hookless.silent

end Silent
end ShaderPrep.Target
