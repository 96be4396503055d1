import ShaderPrep.Proofs.Conditional.Machine
import ShaderPrep.Proofs.Line.Stable

/-! The tree that is built so far, rendered, is what the machine has put out so far. One relation
between the open blocks of the builder and the frames of the machine carries this from line to
line; lines of skipped branches are in the tree and never rendered. -/
namespace ShaderPrep

namespace Tree

theorem Keyword.eq_spelling_of_at? {k : Keyword} {line : Text} (h : Keyword.at? line = some k) :
    ∃ rest, line = k.spelling ++ rest := by
  have begins := List.find?_some h
  exact Text.begins_iff.mp begins

/-- A guard is read from what stands behind the keyword, if the line starts with it. -/
theorem guardOfLine_value {k : Keyword} {line : Text} (h : Keyword.at? line = some k)
    (starts : k ≠ .otherwise ∧ k ≠ .endif) :
    (guardOfLine line k.spelling.length).value = k.guard line := by
  obtain ⟨rest, rfl⟩ := Keyword.eq_spelling_of_at? h
  have size : k.spelling.length = Text.byteSize k.spelling := by cases k <;> rfl
  have cut := Text.splitAtByte?_append k.spelling rest
  rw [← size] at cut
  cases k with
  | otherwise => exact absurd rfl starts.1
  | endif => exact absurd rfl starts.2
  | ifdef | ifndef | opening | elseIf =>
    simp only [guardOfLine, cut, Option.getD_some, Keyword.guard, Keyword.condition,
      List.drop_left]
    rfl

theorem Continuation.ofLine_otherwise {line : Text} (h : Keyword.at? line = some .otherwise) :
    Continuation.ofLine line = .otherwise := by
  obtain ⟨rest, rfl⟩ := Keyword.eq_spelling_of_at? h
  have cut : Text.splitAtByte? 5 _ = _ := Text.splitAtByte?_append Keyword.otherwise.spelling rest
  rw [ofLine, cut]
  rfl

theorem Continuation.ofLine_elseIf {line : Text} (h : Keyword.at? line = some .elseIf) :
    Continuation.ofLine line = .elseIf := by
  obtain ⟨rest, rfl⟩ := Keyword.eq_spelling_of_at? h
  have cut : Text.splitAtByte? 5 _ = _ := Text.splitAtByte?_append Keyword.elseIf.spelling rest
  rw [ofLine, cut]
  rfl

/-- Which open blocks are in their last resort, innermost first. -/
def Builder.lastResorts (b : Builder) : List Bool := b.blocks.map (·.guard.isNone)

section Rendering
variable {edit : LineEdit τ}

theorem renderNodes_append (first last : List Node) (s : RenderState τ) :
    renderNodes edit (first ++ last) s =
      ((renderNodes edit first s).1 ++ (renderNodes edit last (renderNodes edit first s).2).1,
        (renderNodes edit last (renderNodes edit first s).2).2) := by
  induction first generalizing s with
  | nil => simp [renderNodes]
  | cons node rest ih => simp [renderNodes, ih]

theorem renderNodes_concat {nodes : List Node} {node : Node} {s s' s'' : RenderState τ}
    {text text' : Text} (h : renderNodes edit nodes s = (text, s'))
    (h' : node.render edit s' = (text', s'')) :
    renderNodes edit (nodes ++ [node]) s = (text ++ text', s'') := by
  simp [renderNodes_append, h, renderNodes, h']

theorem render_group (nodes : List Node) (s : RenderState τ) :
    (Node.group nodes).render edit s = renderNodes edit nodes s := by
  simp [Node.group, Node.render, renderLine, commit]

theorem renderBranches_taken {branch : Branch Node} {rest : List (Branch Node)}
    {s : RenderState τ} (h : branch.guard.all (·.holds s.symbols) = true) :
    renderBranches edit (branch :: rest) s = branch.body.render edit s := by
  simp [renderBranches, h]

theorem renderBranches_skipped {branch : Branch Node} {rest : List (Branch Node)}
    {s : RenderState τ} (h : branch.guard.all (·.holds s.symbols) = false) :
    renderBranches edit (branch :: rest) s = renderBranches edit rest s := by
  simp [renderBranches, h]

end Rendering

/-- The builder and the machine have read the same lines. Of the innermost block, `skipped` has
inactive lines around it, `waiting` no branch taken yet; `current` is in the branch that is
taken, and `done` behind it. -/
inductive Agrees (edit : LineEdit τ) (start : RenderState τ) : Builder → Machine τ → Prop
  | outermost : renderNodes edit nodes.reverse start = (output, state) →
      Agrees edit start ⟨nodes, []⟩ ⟨[], true, output, edited, state⟩
  | skipped : Agrees edit start ⟨block.before, blocks⟩ ⟨frames, false, output, edited, state⟩ →
      Agrees edit start ⟨nodes, block :: blocks⟩
        ⟨⟨false, taken⟩ :: frames, false, output, edited, state⟩
  | waiting : Agrees edit start ⟨block.before, blocks⟩ ⟨frames, true, output, edited, state⟩ →
      (∀ rest, renderBranches edit (block.branches.reverse ++ rest) state =
        renderBranches edit rest state) →
      block.guard.all (·.holds state.symbols) = false →
      Agrees edit start ⟨nodes, block :: blocks⟩
        ⟨⟨true, false⟩ :: frames, false, output, edited, state⟩
  | current : Agrees edit start ⟨block.before, blocks⟩ ⟨frames, true, output, before, state⟩ →
      (∀ rest, renderBranches edit (block.branches.reverse ++ rest) state =
        renderBranches edit rest state) →
      block.guard.all (·.holds state.symbols) = true →
      renderNodes edit nodes.reverse state = (text, state') →
      Agrees edit start ⟨nodes, block :: blocks⟩
        ⟨⟨true, true⟩ :: frames, true, output ++ text, edited, state'⟩
  | done : Agrees edit start ⟨block.before, blocks⟩ ⟨frames, true, output, before, state⟩ →
      (∀ rest, renderBranches edit (block.branches.reverse ++ rest) state = (text, state')) →
      Agrees edit start ⟨nodes, block :: blocks⟩
        ⟨⟨true, true⟩ :: frames, false, output ++ text, edited, state'⟩

namespace Agrees
variable {edit : LineEdit τ} {start : RenderState τ} {nodes : List Node}
  {blocks : List OpenBlock} {block : OpenBlock} {frames : List Frame} {frame : Frame}
  {active : Bool} {output : Text} {edited : List Text} {state : RenderState τ}

/-- Nodes read while lines are active are rendered behind what was put out. -/
theorem add_active (h : Agrees edit start ⟨nodes, blocks⟩ ⟨frames, true, output, edited, state⟩)
    (rendered : node.render edit state = (text, state')) (edited' : List Text) :
    Agrees edit start ⟨node :: nodes, blocks⟩
      ⟨frames, true, output ++ text, edited', state'⟩ := by
  cases h with
  | outermost nodesRendered =>
    refine .outermost ?_
    rw [List.reverse_cons]
    exact renderNodes_concat nodesRendered rendered
  | current outer skip holds nodesRendered =>
    rw [List.append_assoc]
    refine .current outer skip holds ?_
    rw [List.reverse_cons]
    exact renderNodes_concat nodesRendered rendered

/-- Nodes read while lines are inactive leave no trace. -/
theorem add_inactive (node : Node)
    (h : Agrees edit start ⟨nodes, blocks⟩ ⟨frames, false, output, edited, state⟩) :
    Agrees edit start ⟨node :: nodes, blocks⟩ ⟨frames, false, output, edited, state⟩ := by
  cases h with
  | skipped outer => exact .skipped outer
  | waiting outer skip fails => exact .waiting outer skip fails
  | done outer taken => exact .done outer taken

/-- The innermost block as a node, rendered where it stands. -/
theorem enclose (h : Agrees edit start ⟨nodes, block :: blocks⟩ m) :
    Agrees edit start ⟨Builder.enclose block nodes, blocks⟩ m.closeBlock := by
  have last : (Builder.branch block nodes :: block.branches).reverse =
      block.branches.reverse ++ [Builder.branch block nodes] := List.reverse_cons
  have body (s : RenderState τ) : (Builder.branch block nodes).body.render edit s =
      renderNodes edit nodes.reverse s := render_group ..
  obtain ⟨frames, active, output, edited, state⟩ := m
  cases h with
  | skipped outer => exact outer.add_inactive _
  | waiting outer skip fails =>
    have rendered := skip [Builder.branch block nodes]
    rw [renderBranches_skipped fails, renderBranches, ← last] at rendered
    have added := outer.add_active (Node.render.eq_2 .. ▸ rendered) edited
    rw [List.append_nil] at added
    exact added
  | current outer skip holds nodesRendered =>
    have rendered := skip [Builder.branch block nodes]
    rw [renderBranches_taken holds, body, nodesRendered, ← last] at rendered
    exact outer.add_active (Node.render.eq_2 .. ▸ rendered) _
  | done outer taken =>
    have rendered := taken [Builder.branch block nodes]
    rw [← last] at rendered
    exact outer.add_active (Node.render.eq_2 .. ▸ rendered) _

/-- The finished tree, whatever blocks are still open. -/
theorem finish (h : Agrees edit start b m) :
    renderNodes edit b.finish start = (m.output, m.state) := by
  obtain ⟨nodes, blocks⟩ := b
  induction blocks generalizing nodes m with
  | nil =>
    cases h with
    | outermost rendered => exact rendered
  | cons block blocks ih =>
    have closed := ih _ h.enclose
    have same : (m.closeBlock.output, m.closeBlock.state) = (m.output, m.state) := by
      unfold Machine.closeBlock
      split <;> rfl
    exact closed.trans same

theorem emit (filled : line ≠ []) (h : Agrees edit start ⟨nodes, blocks⟩ m) :
    Agrees edit start ⟨.ofLine line :: nodes, blocks⟩ (m.emit edit line) := by
  obtain ⟨frames, active, output, edited, state⟩ := m
  cases active with
  | false => exact h.add_inactive _
  | true =>
    refine h.add_active ?_ _
    obtain ⟨c, line, rfl⟩ := List.exists_cons_of_ne_nil filled
    simp [Node.ofLine, Node.render, renderLine, renderNodes]

theorem openBlock (guard : Guard) (h : Agrees edit start b m) :
    Agrees edit start (b.openBlock guard) (m.openBlock guard) := by
  obtain ⟨frames, active, output, edited, state⟩ := m
  cases active with
  | false => exact .skipped h
  | true =>
    simp only [Machine.openBlock, if_true]
    cases holds : guard.holds state.symbols with
    | false => exact .waiting h (fun _ => rfl) holds
    | true =>
      have opened : Agrees edit start ⟨[], ⟨[], some guard, b.nodes⟩ :: b.blocks⟩
          ⟨⟨true, true⟩ :: frames, true, output ++ [], edited, state⟩ :=
        .current h (fun _ => rfl) holds rfl
      rw [List.append_nil] at opened
      exact opened

/-- Another branch of the innermost block is read. -/
theorem nextBranch (guard : Option Guard) (h : Agrees edit start ⟨nodes, block :: blocks⟩ m) :
    Agrees edit start (Builder.nextBranch guard ⟨nodes, block :: blocks⟩) (m.nextBranch guard) := by
  have last (rest : List (Branch Node)) :
      (Builder.branch block nodes :: block.branches).reverse ++ rest =
        block.branches.reverse ++ Builder.branch block nodes :: rest := by simp
  have body (s : RenderState τ) : (Builder.branch block nodes).body.render edit s =
      renderNodes edit nodes.reverse s := render_group ..
  obtain ⟨frames, active, output, edited, state⟩ := m
  cases h with
  | skipped outer => exact .skipped outer
  | waiting outer skip fails =>
    have skip' (rest : List (Branch Node)) :
        renderBranches edit ((Builder.branch block nodes :: block.branches).reverse ++ rest) state =
          renderBranches edit rest state := by
      rw [last, skip, renderBranches_skipped fails]
    simp only [Machine.nextBranch, Bool.not_false, Bool.and_self, if_true, Bool.false_or]
    cases holds : guard.all (·.holds state.symbols) with
    | false => exact .waiting outer skip' holds
    | true =>
      have taken : Agrees edit start
          ⟨[], ⟨Builder.branch block nodes :: block.branches, guard, block.before⟩ :: blocks⟩
          ⟨⟨true, true⟩ :: _, true, output ++ [], edited, state⟩ :=
        .current outer skip' holds rfl
      rw [List.append_nil] at taken
      exact taken
  | current outer skip holds rendered =>
    refine .done outer fun rest => ?_
    rw [last, skip, renderBranches_taken holds, body, rendered]
  | done outer taken =>
    refine .done outer fun rest => ?_
    rw [last, taken]

/-- One line of a well nested source keeps builder and machine together. -/
theorem step (h : Agrees edit start b m) (leads : KeywordLeads line) (filled : line ≠ [])
    (nested : wellNested b.lastResorts (line :: rest) = true) :
    ∃ b', (b.step line).value = .grown b' ∧ wellNested b'.lastResorts rest = true ∧
      Agrees edit start b' (m.read edit line) := by
  obtain ⟨nodes, blocks⟩ := b
  rw [Builder.step, leads]
  simp only [wellNested] at nested
  simp only [Machine.read]
  cases keyword : Keyword.at? line with
  | none =>
    simp only [keyword] at nested
    exact ⟨_, rfl, nested, h.emit filled⟩
  | some k =>
    simp only [keyword] at nested
    cases k with
    | ifdef =>
      have guard := guardOfLine_value keyword (by decide)
      exact ⟨_, rfl, nested, guard ▸ h.openBlock _⟩
    | ifndef =>
      have guard := guardOfLine_value keyword (by decide)
      exact ⟨_, rfl, nested, guard ▸ h.openBlock _⟩
    | opening =>
      have guard := guardOfLine_value keyword (by decide)
      exact ⟨_, rfl, nested, guard ▸ h.openBlock _⟩
    | endif =>
      cases blocks with
      | nil => contradiction
      | cons block blocks => exact ⟨_, rfl, nested, h.enclose⟩
    | otherwise =>
      -- The last resort goes on only from a branch that has a guard.
      cases blocks with
      | nil => contradiction
      | cons block blocks =>
        cases resort : block.guard.isNone with
        | true => simp [Builder.lastResorts, resort] at nested
        | false =>
          simp only [Builder.lastResorts, List.map_cons, resort] at nested
          refine ⟨Builder.nextBranch none ⟨nodes, block :: blocks⟩, ?_, nested, h.nextBranch none⟩
          simp [Builder.continueBlock, resort, Continuation.ofLine_otherwise keyword]
    | elseIf =>
      cases blocks with
      | nil => contradiction
      | cons block blocks =>
        have guard := guardOfLine_value keyword (by decide)
        cases resort : block.guard.isNone with
        | true => simp [Builder.lastResorts, resort] at nested
        | false =>
          simp only [Builder.lastResorts, List.map_cons, resort] at nested
          refine ⟨Builder.nextBranch (some (Keyword.elseIf.guard line)) ⟨nodes, block :: blocks⟩,
            ?_, nested, h.nextBranch _⟩
          simp [Builder.continueBlock, resort, Continuation.ofLine_elseIf keyword]
          exact congrArg (fun g => Builder.nextBranch (some g) _) guard

/-- All lines of a well nested source. -/
theorem run {lines : List Text} (h : Agrees edit start b m)
    (leads : ∀ line ∈ lines, KeywordLeads line) (filled : ∀ line ∈ lines, line ≠ [])
    (nested : wellNested b.lastResorts lines = true) (current : Text) :
    ∃ b', (b.run current lines).value.nodes = b'.finish ∧
      Agrees edit start b' (lines.foldl (Machine.read edit) m) := by
  induction lines generalizing b m current with
  | nil => exact ⟨b, rfl, h⟩
  | cons line rest ih =>
    obtain ⟨b', grown, nested', h'⟩ := h.step (leads line List.mem_cons_self)
      (filled line List.mem_cons_self) nested
    obtain ⟨b'', built, h''⟩ := ih h' (fun l hl => leads l (List.mem_cons_of_mem _ hl))
      (fun l hl => filled l (List.mem_cons_of_mem _ hl)) nested' line
    refine ⟨b'', ?_, h''⟩
    rw [← built, Builder.run, Traced.value_bind, grown]

end Agrees

/-- The tree of a well nested source renders to what the machine puts out. -/
theorem render_ofSource {source : Text} (edit : LineEdit τ) (start : RenderState τ)
    (leads : ∀ line ∈ Line.split source, KeywordLeads line)
    (nested : wellNested [] (Line.split source) = true) :
    (ofSource source).value.render edit start =
      ((Machine.run edit (Line.split source) start).output,
        (Machine.run edit (Line.split source) start).state) := by
  have initial : Agrees edit start {} { state := start } := .outermost rfl
  obtain ⟨b, built, agrees⟩ := initial.run leads (fun _ => Line.ne_nil_of_mem_split) nested []
  have tree : (ofSource source).value = .group b.finish := congrArg Node.group built
  rw [tree, render_group]
  exact agrees.finish

end Tree
end ShaderPrep
