import ShaderPrep.Proofs.Conditional.Simulation

/-! Trees keep the lines of their source. The nodes of a segment are what was read for it, in order:
a line node for each line without a keyword, a block for each line that opens one. What the
segments of any source leave unread is the boundary at the end of each, which belongs to no block
that the segment opened. -/
namespace ShaderPrep.Tree

section Preorder

mutual

/-- The nodes in pre-order, from a node on: the text of a line node, none for a block. -/
def Node.preorder : Node → List (Option Text)
  | .code line children _ => line.toList.map some ++ preorderNodes children
  | .block branches => none :: preorderBranches branches

def preorderNodes : List Node → List (Option Text)
  | [] => []
  | node :: rest => node.preorder ++ preorderNodes rest

def preorderBranches : List (Branch Node) → List (Option Text)
  | [] => []
  | ⟨_, body⟩ :: rest => body.preorder ++ preorderBranches rest

end

/-- The lines of all nodes, those under others behind them. -/
def linesOf (nodes : List Node) : List Text := (preorderNodes nodes).filterMap id

/-- How many blocks there are, on all levels. -/
def blockCount (nodes : List Node) : Nat := (preorderNodes nodes).count none

theorem preorderNodes_append (nodes others : List Node) :
    preorderNodes (nodes ++ others) = preorderNodes nodes ++ preorderNodes others := by
  induction nodes with
  | nil => rfl
  | cons node rest ih => simp [preorderNodes, ih]

theorem preorderBranches_append (branches others : List (Branch Node)) :
    preorderBranches (branches ++ others) =
      preorderBranches branches ++ preorderBranches others := by
  induction branches with
  | nil => rfl
  | cons branch rest ih => simp [preorderBranches, ih]

end Preorder

def Keyword.opens : Keyword → Bool
  | ifdef | ifndef | opening => true
  | otherwise | elseIf | endif => false

/-- What a line adds to the nodes in pre-order. -/
def mark (line : Text) : List (Option Text) :=
  match Keyword.first? line with
  | none => [some line]
  | some k => if k.opens then [none] else []

/-- The blocks that are open behind a line, innermost first; of each, whether it is in its last
resort. -/
def openBehind (blocks : List Bool) (line : Text) : List Bool :=
  match Keyword.first? line, blocks with
  | none, _ => blocks
  | some .ifdef, _ | some .ifndef, _ | some .opening, _ => false :: blocks
  | some .endif, _ => blocks.tail
  | some .otherwise, resort :: outer | some .elseIf, resort :: outer =>
    if resort then outer else decide (Continuation.ofLine line = .otherwise) :: outer
  | some .otherwise, [] | some .elseIf, [] => []

/-- A block that is open, from the nodes before it to the branch that is being read. -/
def OpenBlock.preorder (block : OpenBlock) : List (Option Text) :=
  preorderNodes block.before.reverse ++ none :: preorderBranches block.branches.reverse

namespace Builder
variable {b : Builder} {nodes : List Node} {block : OpenBlock} {blocks : List OpenBlock}

/-- All that has been read, in pre-order. -/
def preorder (b : Builder) : List (Option Text) := preorderNodes b.finish

theorem preorder_enclose :
    preorderNodes (enclose block nodes).reverse =
      block.preorder ++ preorderNodes nodes.reverse := by
  have body : (Node.group nodes.reverse).preorder = preorderNodes nodes.reverse := rfl
  simp only [enclose, branch, OpenBlock.preorder, List.reverse_cons, preorderNodes_append,
    preorderNodes, preorderBranches_append, preorderBranches, Node.preorder, body,
    List.append_nil, List.append_assoc, List.cons_append]

/-- What is being read stands behind the open blocks, the outermost first. -/
theorem preorder_eq :
    preorder ⟨nodes, blocks⟩ =
      blocks.reverse.flatMap OpenBlock.preorder ++ preorderNodes nodes.reverse := by
  induction blocks generalizing nodes with
  | nil => rfl
  | cons block outer ih =>
    have closed : preorder ⟨nodes, block :: outer⟩ = preorder ⟨enclose block nodes, outer⟩ := rfl
    rw [closed, ih, preorder_enclose, List.reverse_cons, List.flatMap_append,
      List.flatMap_singleton, List.append_assoc]

theorem preorder_add (line : Text) :
    (b.add (.ofLine line)).preorder = b.preorder ++ [some line] := by
  obtain ⟨nodes, blocks⟩ := b
  simp only [add, preorder_eq, List.reverse_cons, preorderNodes_append, List.append_assoc]
  rfl

theorem preorder_openBlock (guard : Guard) :
    (b.openBlock guard).preorder = b.preorder ++ [none] := by
  obtain ⟨nodes, blocks⟩ := b
  simp only [openBlock, preorder_eq, List.reverse_cons, List.flatMap_append,
    List.flatMap_singleton, OpenBlock.preorder, List.append_assoc]
  rfl

theorem preorder_nextBranch (guard : Option Guard) :
    (nextBranch guard ⟨nodes, block :: blocks⟩).preorder = preorder ⟨nodes, block :: blocks⟩ := by
  have body : (Node.group nodes.reverse).preorder = preorderNodes nodes.reverse := rfl
  simp only [nextBranch, branch, preorder_eq, List.reverse_cons, List.flatMap_append,
    List.flatMap_singleton, OpenBlock.preorder, preorderBranches_append, preorderBranches, body,
    List.reverse_nil, preorderNodes, List.append_nil, List.append_assoc, List.cons_append]

theorem preorder_closeBlock : b.closeBlock.preorder = b.preorder := by
  obtain ⟨nodes, blocks⟩ := b
  cases blocks <;> rfl

/-- A boundary inside a block adds no node, and goes on with the block or closes it. -/
theorem preorder_continueBlock (nodes : List Node) (block : OpenBlock) (blocks : List OpenBlock)
    (line : Text) :
    let b : Builder := ⟨nodes, block :: blocks⟩
    (b.continueBlock block line).value.preorder = b.preorder ∧
      (b.continueBlock block line).value.lastResorts =
        if block.guard.isNone then blocks.map (·.guard.isNone)
        else decide (Continuation.ofLine line = .otherwise) :: blocks.map (·.guard.isNone) := by
  simp only [continueBlock]
  cases resort : block.guard.isNone with
  | true => exact ⟨rfl, rfl⟩
  | false =>
    cases Continuation.ofLine line with
    | otherwise => exact ⟨preorder_nextBranch none, rfl⟩
    | elseIf => exact ⟨preorder_nextBranch _, rfl⟩
    | none => exact ⟨rfl, congrArg (· :: _) resort⟩

/-- One line: it is kept in the tree, with the blocks that are open behind it, or it is a boundary
where no block is open and the segment ends. -/
theorem step_cases (b : Builder) (line : Text) :
    (∃ b', (b.step line).value = .grown b' ∧ b'.preorder = b.preorder ++ mark line ∧
      b'.lastResorts = openBehind b.lastResorts line) ∨
    ∃ more k, (b.step line).value = .ended more ∧ b.lastResorts = [] ∧
      Keyword.first? line = some k ∧ k.opens = false := by
  obtain ⟨nodes, blocks⟩ := b
  simp only [step, mark, openBehind]
  cases Keyword.first? line with
  | none => exact .inl ⟨_, rfl, preorder_add line, rfl⟩
  | some k =>
    cases k with
    | ifdef | ifndef | opening => exact .inl ⟨_, rfl, preorder_openBlock _, rfl⟩
    | endif =>
      cases blocks with
      | nil => exact .inr ⟨_, _, rfl, rfl, rfl, rfl⟩
      | cons block blocks =>
        exact .inl ⟨_, rfl, preorder_closeBlock.trans (List.append_nil _).symm, rfl⟩
    | otherwise | elseIf =>
      cases blocks with
      | nil => exact .inr ⟨_, _, rfl, rfl, rfl, rfl⟩
      | cons block blocks =>
        have kept := preorder_continueBlock nodes block blocks line
        exact .inl ⟨_, rfl, kept.1.trans (List.append_nil _).symm, kept.2⟩

/-- A run keeps the lines that it reads, all of them or those before a boundary where no block is
open. -/
theorem run_cases (b : Builder) (current : Text) (lines : List Text) :
    let segment := (b.run current lines).value
    ∃ read, preorderNodes segment.nodes = b.preorder ++ read.flatMap mark ∧
      (lines = read ∧ segment.cursor.ahead = [] ∨
        lines = read ++ segment.cursor.current :: segment.cursor.ahead ∧
          read.foldl openBehind b.lastResorts = [] ∧
          ∃ k, Keyword.first? segment.cursor.current = some k ∧ k.opens = false) := by
  induction lines generalizing b current with
  | nil => exact ⟨[], (List.append_nil _).symm, .inl ⟨rfl, rfl⟩⟩
  | cons line rest ih =>
    rw [run, Traced.value_bind]
    rcases b.step_cases line with ⟨b', grown, kept, opened⟩ | ⟨more, k, ended, closed, word⟩
    · rw [grown]
      obtain ⟨read, nodes, stopped⟩ := ih b' line
      refine ⟨line :: read, ?_, ?_⟩
      · rw [nodes, kept, List.flatMap_cons, List.append_assoc]
      · rw [List.foldl_cons, ← opened]
        refine stopped.imp (And.imp_left (congrArg _)) (And.imp_left fun lines => ?_)
        exact congrArg _ lines
    · rw [ended]
      exact ⟨[], (List.append_nil _).symm, .inr ⟨rfl, closed, k, word⟩⟩

end Builder

/-- The boundary that a segment ends at has no part in the tree. -/
theorem mark_of_boundary {line : Text} {k : Keyword} (word : Keyword.first? line = some k)
    (boundary : k.opens = false) : mark line = [] := by
  simp [mark, word, boundary]

theorem segment_marks (cursor : Line.Cursor) :
    preorderNodes (segment cursor).value.nodes ++
        (segment cursor).value.cursor.ahead.flatMap mark =
      cursor.ahead.flatMap mark := by
  obtain ⟨read, nodes, ⟨lines, left⟩ | ⟨lines, -, k, word, boundary⟩⟩ :=
    Builder.run_cases {} cursor.current cursor.ahead
  · rw [segment, nodes, left, lines]
    exact List.append_nil _
  · rw [segment, nodes]
    conv => rhs; rw [lines]
    rw [List.flatMap_append, List.flatMap_cons, mark_of_boundary word boundary]
    rfl

/-- Where lines are left behind a segment, it has ended at a boundary where none of its blocks was
open. -/
theorem segment_boundary {cursor : Line.Cursor}
    (left : (segment cursor).value.cursor.canRead = true) :
    let stop := (segment cursor).value.cursor
    ∃ read k, cursor.ahead = read ++ stop.current :: stop.ahead ∧ read.foldl openBehind [] = [] ∧
      Keyword.first? stop.current = some k ∧ k.opens = false := by
  obtain ⟨read, -, ⟨-, none⟩ | ⟨lines, closed, k, word⟩⟩ :=
    Builder.run_cases {} cursor.current cursor.ahead
  · rw [segment, Line.Cursor.canRead, none] at left
    cases left
  · exact ⟨read, k, lines, closed, word⟩

/-- Segment after segment, each from where the last one ended, until no line is left. -/
inductive Successive : Line.Cursor → List Segment → Prop
  | last : (segment cursor).value.cursor.canRead = false →
      Successive cursor [(segment cursor).value]
  | next : (segment cursor).value.cursor.canRead = true →
      Successive (segment cursor).value.cursor rest →
      Successive cursor ((segment cursor).value :: rest)

theorem successive_segments (cursor : Line.Cursor) : Successive cursor (segments cursor).value := by
  induction size : cursor.ahead.length using Nat.strongRecOn generalizing cursor with
  | ind n ih =>
    rw [segments, Traced.value_bind]
    cases left : (segment cursor).value.cursor.canRead with
    | false =>
      rw [if_neg (by simp)]
      exact .last left
    | true =>
      have fewer := segment_ahead_lt left
      rw [if_pos ⟨fewer, rfl⟩]
      exact .next left (ih _ (size ▸ fewer) _ rfl)

theorem Successive.marks {cursor : Line.Cursor} {parts : List Segment}
    (h : Successive cursor parts) :
    preorderNodes (parts.flatMap (·.nodes)) = cursor.ahead.flatMap mark := by
  induction h with
  | @last cursor none =>
    have empty : (segment cursor).value.cursor.ahead = [] := by
      simpa [Line.Cursor.canRead] using none
    have marks := segment_marks cursor
    rw [empty] at marks
    simpa using marks
  | @next cursor rest _ _ ih =>
    rw [List.flatMap_cons, preorderNodes_append, ih, segment_marks]

theorem filterMap_marks (lines : List Text) :
    (lines.flatMap mark).filterMap id = lines.filter (Keyword.first? · = none) := by
  induction lines with
  | nil => rfl
  | cons line rest ih =>
    rw [List.flatMap_cons, List.filterMap_append, ih, mark]
    cases word : Keyword.first? line with
    | none => simp [word]
    | some k => cases k <;> simp [word, Keyword.opens]

theorem count_marks (lines : List Text) :
    (lines.flatMap mark).count none =
      lines.countP fun line => (Keyword.first? line).any Keyword.opens := by
  induction lines with
  | nil => rfl
  | cons line rest ih =>
    rw [List.flatMap_cons, List.count_append, ih, mark, List.countP_cons]
    cases word : Keyword.first? line with
    | none => simp
    | some k => cases k <;> simp [Keyword.opens, Nat.add_comm]

/-- The segments of any source come to an end, and their nodes hold its lines without a keyword,
each once and in order, and as many blocks as lines that open one. A segment that leaves lines
behind has ended at a line that opens no block, where none was open. -/
theorem segments_conserve (source : Text) :
    let lines := Line.split source
    let parts := (segments (.ofSource source)).value
    Successive (.ofSource source) parts ∧
      linesOf (parts.flatMap (·.nodes)) = lines.filter (Keyword.first? · = none) ∧
      blockCount (parts.flatMap (·.nodes)) =
        lines.countP (fun line => (Keyword.first? line).any Keyword.opens) ∧
      ∀ cursor : Line.Cursor, (segment cursor).value.cursor.canRead = true →
        let stop := (segment cursor).value.cursor
        ∃ read k, cursor.ahead = read ++ stop.current :: stop.ahead ∧
          read.foldl openBehind [] = [] ∧
          Keyword.first? stop.current = some k ∧ k.opens = false := by
  intro lines parts
  have calls := successive_segments (.ofSource source)
  have marks : preorderNodes (parts.flatMap (·.nodes)) = lines.flatMap mark := calls.marks
  refine ⟨calls, ?_, ?_, fun cursor => segment_boundary⟩
  · rw [linesOf, marks, filterMap_marks]
  · rw [blockCount, marks, count_marks]

end ShaderPrep.Tree
