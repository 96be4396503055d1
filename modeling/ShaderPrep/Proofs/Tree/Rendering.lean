import ShaderPrep.Tree.Render

/-! Two edits that treat related states alike render every tree alike. -/
namespace ShaderPrep.Tree
variable {τ τ' : Type}

/-- The states have the same symbols, and what the edits keep is related. -/
structure RenderState.Beside (R : τ → τ' → Prop) (s : RenderState τ) (s' : RenderState τ') :
    Prop where
  symbols : s.symbols = s'.symbols
  lines : R s.lines s'.lines

/-- The same text came out, and the states are related. -/
def Alongside (R : τ → τ' → Prop) (x : Text × RenderState τ) (x' : Text × RenderState τ') : Prop :=
  x.1 = x'.1 ∧ x.2.Beside R x'.2

/-- From related states both edits make the same of a line, and the states stay related. -/
def EditsAlike (R : τ → τ' → Prop) (edit : LineEdit τ) (edit' : LineEdit τ') : Prop :=
  ∀ symbols line s s', line ≠ [] → R s s' →
    (edit symbols line s).1 = (edit' symbols line s').1 ∧
      R (edit symbols line s).2 (edit' symbols line s').2

namespace EditsAlike
variable {R : τ → τ' → Prop} {edit : LineEdit τ} {edit' : LineEdit τ'}
  {s : RenderState τ} {s' : RenderState τ'}

theorem renderLine (alike : EditsAlike R edit edit') (line : Option Text) (h : s.Beside R s') :
    Alongside R (renderLine edit line s) (renderLine edit' line s') := by
  obtain ⟨symbols, lines⟩ := s
  obtain ⟨symbols', lines'⟩ := s'
  obtain ⟨rfl, related⟩ := h
  rcases line with _ | _ | ⟨c, line⟩
  · exact ⟨rfl, rfl, related⟩
  · exact ⟨rfl, rfl, related⟩
  · have edited := alike symbols (c :: line) lines lines' (List.cons_ne_nil c line) related
    exact ⟨congrArg (· ++ lineEnd) edited.1, rfl, edited.2⟩

theorem commit (define : Option LineDefine) (h : s.Beside R s') :
    (commit define s).Beside R (commit define s') := by
  cases define with
  | none => exact h
  | some define => exact ⟨congrArg (·.insert define.name define.effective) h.symbols, h.lines⟩

mutual

/-- Related states stay related over a whole tree, and the same text comes out. -/
theorem render (alike : EditsAlike R edit edit') :
    ∀ (node : Node) {s : RenderState τ} {s' : RenderState τ'}, s.Beside R s' →
      Alongside R (node.render edit s) (node.render edit' s')
  | .code line children define, s, s', h => by
    have head := alike.renderLine line h
    have body := renderNodes alike children head.2
    rw [Node.render, Node.render]
    exact ⟨congr (congrArg HAppend.hAppend head.1) body.1, commit define body.2⟩
  | .block branches, s, s', h => by
    rw [Node.render, Node.render]
    exact renderBranches alike branches h

theorem renderNodes (alike : EditsAlike R edit edit') :
    ∀ (nodes : List Node) {s : RenderState τ} {s' : RenderState τ'}, s.Beside R s' →
      Alongside R (Tree.renderNodes edit nodes s) (Tree.renderNodes edit' nodes s')
  | [], s, s', h => ⟨rfl, h⟩
  | node :: rest, s, s', h => by
    have first := render alike node h
    have others := renderNodes alike rest first.2
    rw [Tree.renderNodes, Tree.renderNodes]
    exact ⟨congr (congrArg HAppend.hAppend first.1) others.1, others.2⟩

theorem renderBranches (alike : EditsAlike R edit edit') :
    ∀ (branches : List (Branch Node)) {s : RenderState τ} {s' : RenderState τ'}, s.Beside R s' →
      Alongside R (Tree.renderBranches edit branches s) (Tree.renderBranches edit' branches s')
  | [], s, s', h => ⟨rfl, h⟩
  | ⟨guard, body⟩ :: rest, s, s', h => by
    rw [Tree.renderBranches, Tree.renderBranches, h.symbols]
    split
    · exact render alike body h
    · exact renderBranches alike rest h

end

end EditsAlike
end ShaderPrep.Tree
