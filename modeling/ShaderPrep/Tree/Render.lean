import ShaderPrep.Tree.Basic

/-!
Trees rendered against a symbol table. Lines go through an edit that may keep a state of its
own; a symbol that a line defines is known to everything rendered later.
-/
namespace ShaderPrep.Tree

/-- Edits one line under the symbols known so far, with a state `τ` of its own. -/
abbrev LineEdit (τ : Type) := Symbols → Text → τ → Text × τ

/-- The edit that leaves every line as it is. -/
def keepLines : LineEdit τ := fun _ line state => (line, state)

/-- What rendering threads from line to line. -/
structure RenderState (τ : Type) where
  symbols : Symbols
  lines : τ

/-- The end of every rendered line. -/
def lineEnd : Text := "\r\n".toList

def renderLine (edit : LineEdit τ) (line : Option Text) (s : RenderState τ) :
    Text × RenderState τ :=
  match line with
  | none | some [] => ([], s)
  | some line =>
    let (text, lines) := edit s.symbols line s.lines
    (text ++ lineEnd, { s with lines })

/-- Makes the symbol of a line known. -/
def commit (define : Option LineDefine) (s : RenderState τ) : RenderState τ :=
  match define with
  | none => s
  | some define => { s with symbols := s.symbols.insert define.name define.effective }

mutual

/-- A line before the nodes under it; of a block only the first branch that is taken. -/
def Node.render (edit : LineEdit τ) : Node → RenderState τ → Text × RenderState τ
  | .code line children define, s =>
    let (head, s) := renderLine edit line s
    let (body, s) := renderNodes edit children s
    (head ++ body, commit define s)
  | .block branches, s => renderBranches edit branches s

def renderNodes (edit : LineEdit τ) : List Node → RenderState τ → Text × RenderState τ
  | [], s => ([], s)
  | node :: rest, s =>
    let (first, s) := node.render edit s
    let (others, s) := renderNodes edit rest s
    (first ++ others, s)

def renderBranches (edit : LineEdit τ) :
    List (Branch Node) → RenderState τ → Text × RenderState τ
  | [], s => ([], s)
  | ⟨guard, body⟩ :: rest, s =>
    if guard.all (·.holds s.symbols) then body.render edit s
    else renderBranches edit rest s

end

end ShaderPrep.Tree
