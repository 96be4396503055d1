import ShaderPrep.Tree.Build
import ShaderPrep.Tree.Render

/-! A conditional machine. It reads the logical lines of a source once and never builds a tree;
all it remembers of the open blocks is two flags for each of them. It says what evaluating the
conditionals of a well nested source means. -/
namespace ShaderPrep.Tree

namespace Keyword

/-- The condition behind the keyword of a line, up to a comment. -/
def condition (k : Keyword) (line : Text) : Text :=
  let behind := line.drop k.spelling.length
  (((Text.cut? "//".toList behind).map Prod.fst).getD behind).trim

/-- The guard of the branch that a line with the keyword starts. -/
def guard (k : Keyword) (line : Text) : Guard :=
  match k with
  | ifdef => .defined (k.condition line) false
  | ifndef => .defined (k.condition line) true
  | _ => Guard.parse (k.condition line)

end Keyword

/-- No keyword occurs in the line, unless one starts it. -/
def KeywordLeads (line : Text) : Prop := Keyword.first? line = Keyword.at? line

instance : DecidablePred KeywordLeads := fun line =>
  inferInstanceAs (Decidable (Keyword.first? line = Keyword.at? line))

/-- Every block goes on with guarded branches and at most one last resort, in this order, before
it ends; blocks may stay open. The stack says of each open block whether it is in its last
resort, the innermost first. -/
def wellNested : List Bool → List Text → Bool
  | _, [] => true
  | stack, line :: rest =>
    match Keyword.at? line, stack with
    | none, stack => wellNested stack rest
    | some .ifdef, stack => wellNested (false :: stack) rest
    | some .ifndef, stack => wellNested (false :: stack) rest
    | some .opening, stack => wellNested (false :: stack) rest
    | some .elseIf, false :: outer => wellNested (false :: outer) rest
    | some .otherwise, false :: outer => wellNested (true :: outer) rest
    | some .endif, _ :: outer => wellNested outer rest
    | _, _ => false

/-- What the machine remembers of an open block. -/
structure Frame where
  /-- Whether the lines around the block are active. -/
  parent : Bool
  /-- Whether a branch of the block has been taken. -/
  taken : Bool

structure Machine (τ : Type) where
  /-- The open blocks, innermost first. -/
  frames : List Frame := []
  active : Bool := true
  output : Text := []
  /-- The lines that were edited, in order. -/
  edited : List Text := []
  state : RenderState τ

namespace Machine

/-- An active line is edited and put out, and then its symbol is known. -/
def emit (edit : LineEdit τ) (line : Text) (m : Machine τ) : Machine τ :=
  if m.active then
    let (text, lines) := edit m.state.symbols line m.state.lines
    let define := if Text.begins "#d".toList line then LineDefine.ofLine? line else none
    { m with
      output := m.output ++ (text ++ lineEnd)
      edited := m.edited ++ [line]
      state := commit define { m.state with lines } }
  else m

/-- Asks for a guard only where lines are active. -/
def openBlock (guard : Guard) (m : Machine τ) : Machine τ :=
  let holds := if m.active then guard.holds m.state.symbols else false
  { m with frames := ⟨m.active, holds⟩ :: m.frames, active := holds }

/-- Asks for a guard only if the block is in an active place and no branch has been taken. -/
def nextBranch (guard : Option Guard) (m : Machine τ) : Machine τ :=
  match m.frames with
  | [] => m
  | ⟨parent, taken⟩ :: outer =>
    let holds := if parent && !taken then guard.all (·.holds m.state.symbols) else false
    { m with frames := ⟨parent, taken || holds⟩ :: outer, active := holds }

def closeBlock (m : Machine τ) : Machine τ :=
  match m.frames with
  | [] => m
  | frame :: outer => { m with frames := outer, active := frame.parent }

def read (edit : LineEdit τ) (m : Machine τ) (line : Text) : Machine τ :=
  match Keyword.at? line with
  | none => m.emit edit line
  | some .ifdef => m.openBlock (Keyword.ifdef.guard line)
  | some .ifndef => m.openBlock (Keyword.ifndef.guard line)
  | some .opening => m.openBlock (Keyword.opening.guard line)
  | some .elseIf => m.nextBranch (some (Keyword.elseIf.guard line))
  | some .otherwise => m.nextBranch none
  | some .endif => m.closeBlock

/-- All lines, from the state that symbols and edits start in. -/
def run (edit : LineEdit τ) (lines : List Text) (start : RenderState τ) : Machine τ :=
  lines.foldl (read edit) { state := start }

end Machine
end ShaderPrep.Tree
