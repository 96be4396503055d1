import ShaderPrep.Guard.Reader
import ShaderPrep.Line.Split
import ShaderPrep.Tree.Basic
import ShaderPrep.Tree.Keyword

/-!
Trees from logical lines, in one pass with a stack of open blocks. Blocks left open are closed by
the end of the source. A line that ends or continues a block where none is open ends the segment,
and what follows it is another segment.
-/
namespace ShaderPrep.Tree

/-- The guard of a directive line whose directive takes `width` bytes. Only a line that starts
with the very word tests presence alone; a comment behind the condition is dropped. -/
def guardOfLine (line : Text) (width : Nat) : Traced Guard :=
  let (command, condition) := (line.splitAtByte? width).getD (line, [])
  let condition := ((Text.cut? "//".toList condition).map Prod.fst).getD condition
  if command = Keyword.ifdef.spelling then pure (.defined condition.trim false)
  else if command = Keyword.ifndef.spelling then pure (.defined condition.trim true)
  else Guard.read condition.trim

/-- How a line inside a block goes on with it, judged by its first five bytes in any case. -/
inductive Continuation where
  | otherwise
  | elseIf
  | none
  deriving DecidableEq, Repr

def Continuation.ofLine (line : Text) : Continuation :=
  let head := (((line.splitAtByte? 5).map Prod.fst).getD line).lowercase
  if head = Keyword.otherwise.spelling then .otherwise
  else if head = Keyword.elseIf.spelling then .elseIf
  else .none

/-- A block whose end has not been read. Nodes and branches are kept latest first. -/
structure OpenBlock where
  branches : List (Branch Node)
  /-- The guard of the branch being read, none in the last resort. -/
  guard : Option Guard
  /-- The nodes before the block on its own level. -/
  before : List Node

/-- The nodes of the innermost level, latest first, and the blocks open around it. -/
structure Builder where
  nodes : List Node := []
  blocks : List OpenBlock := []

namespace Builder

def add (node : Node) (b : Builder) : Builder := { b with nodes := node :: b.nodes }

def openBlock (guard : Guard) (b : Builder) : Builder :=
  ⟨[], ⟨[], some guard, b.nodes⟩ :: b.blocks⟩

/-- The branch read so far. -/
def branch (block : OpenBlock) (nodes : List Node) : Branch Node :=
  ⟨block.guard, .group nodes.reverse⟩

/-- Ends the branch of the innermost block and starts another. -/
def nextBranch (guard : Option Guard) (b : Builder) : Builder :=
  match b.blocks with
  | [] => b
  | block :: rest =>
    ⟨[], { block with branches := branch block b.nodes :: block.branches, guard } :: rest⟩

/-- The block as a node behind the nodes before it. -/
def enclose (block : OpenBlock) (nodes : List Node) : List Node :=
  .block (branch block nodes :: block.branches).reverse :: block.before

def closeBlock (b : Builder) : Builder :=
  match b.blocks with
  | [] => b
  | block :: rest => ⟨enclose block b.nodes, rest⟩

/-- All blocks closed; the nodes of the outermost level in order. -/
def finish (b : Builder) : List Node :=
  (b.blocks.foldl (fun nodes block => enclose block nodes) b.nodes).reverse

end Builder

/-- What one line does: the tree grows, or the segment ends at the line. -/
inductive Step where
  | grown (builder : Builder)
  | ended (more : Bool)

/-- A boundary inside a block. The last resort ends at any boundary. -/
def Builder.continueBlock (b : Builder) (block : OpenBlock) (line : Text) : Traced Builder :=
  if block.guard.isNone then pure b.closeBlock
  else
    match Continuation.ofLine line with
    | .otherwise => pure (b.nextBranch none)
    | .elseIf => do return b.nextBranch (some (← guardOfLine line 5))
    | .none => pure b

def Builder.step (b : Builder) (line : Text) : Traced Step :=
  match Keyword.first? line, b.blocks with
  | none, _ => pure (.grown (b.add (.ofLine line)))
  | some .ifdef, _ => do return .grown (b.openBlock (← guardOfLine line 6))
  | some .ifndef, _ => do return .grown (b.openBlock (← guardOfLine line 7))
  | some .opening, _ => do return .grown (b.openBlock (← guardOfLine line 3))
  | some .endif, [] => pure (.ended false)
  | some .endif, _ :: _ => pure (.grown b.closeBlock)
  | some .otherwise, [] => pure (.ended true)
  | some .elseIf, [] => pure (.ended true)
  | some .otherwise, block :: _ => do return .grown (← b.continueBlock block line)
  | some .elseIf, block :: _ => do return .grown (← b.continueBlock block line)

/-- Nodes read up to a line that belongs to no open block, or to the end. -/
structure Segment where
  nodes : List Node
  /-- Whether it ended at a line that would start another branch. -/
  more : Bool
  cursor : Line.Cursor

def Builder.run (b : Builder) (current : Text) : List Text → Traced Segment
  | [] => pure ⟨b.finish, false, ⟨current, []⟩⟩
  | line :: rest => do
    match ← b.step line with
    | .grown b => b.run line rest
    | .ended more => return ⟨b.finish, more, ⟨line, rest⟩⟩

def segment (cursor : Line.Cursor) : Traced Segment :=
  Builder.run {} cursor.current cursor.ahead

/-- The tree of a source: its first segment. -/
def ofSource (source : Text) : Traced Node := do
  return .group (← segment (.ofSource source)).nodes

theorem Builder.run_ahead_length (b : Builder) (current : Text) (lines : List Text) :
    (b.run current lines).value.cursor.ahead.length ≤ lines.length - 1 := by
  induction lines generalizing b current with
  | nil => simp [run]
  | cons line rest ih =>
    simp only [run, Traced.value_bind, List.length_cons, Nat.add_sub_cancel]
    split
    · next b' _ => exact Nat.le_trans (ih b' line) (Nat.sub_le ..)
    · simp

/-- Every segment of the lines ahead, at least one. -/
def segments (cursor : Line.Cursor) : Traced (List Segment) := do
  let first ← segment cursor
  if first.cursor.ahead.length < cursor.ahead.length ∧ first.cursor.canRead then
    return first :: (← segments first.cursor)
  else return [first]
termination_by cursor.ahead.length

/-- Only the end of the lines ends the segments, for each of them reads a line. -/
theorem segment_ahead_lt {cursor : Line.Cursor}
    (h : (segment cursor).value.cursor.canRead = true) :
    (segment cursor).value.cursor.ahead.length < cursor.ahead.length := by
  have bound := Builder.run_ahead_length {} cursor.current cursor.ahead
  have some : (segment cursor).value.cursor.ahead ≠ [] := by
    simpa [Line.Cursor.canRead] using h
  have pos := List.length_pos_iff.2 some
  simp only [segment] at pos ⊢
  omega

end ShaderPrep.Tree
