import ShaderPrep.Proofs.Conditional.Simulation
import ShaderPrep.Proofs.Guard.Printing

/-! Trees written out as sources. A block becomes the lines of its branches between the directives
that start them and the one that ends it; reading those lines takes a builder to where it was,
with the block behind its nodes, however many blocks are open around. -/
namespace ShaderPrep.Tree

section Printing

/-- The directive that starts a branch: the keyword with the guard, or the last resort. -/
def branchLine (k : Keyword) : Option Guard → Text
  | some guard => k.spelling ++ ' ' :: guard.toText
  | none => Keyword.otherwise.spelling

mutual

def Node.print : Node → List Text
  | .code line children _ => line.toList ++ printNodes children
  | .block branches => printBranches .opening branches ++ [Keyword.endif.spelling]

def printNodes : List Node → List Text
  | [] => []
  | node :: rest => node.print ++ printNodes rest

/-- The keyword is for the guard of the first branch. -/
def printBranches (k : Keyword) : List (Branch Node) → List Text
  | [] => []
  | ⟨guard, body⟩ :: rest => branchLine k guard :: (body.print ++ printBranches .elseIf rest)

end

/-- The source that the nodes are written out as. -/
def sourceOf (nodes : List Node) : Text := Text.join ['\n'] (printNodes nodes)

mutual

/-- Nodes that can be written out: lines that are logical lines without a keyword, and blocks whose
first branch has a guard. -/
inductive Node.Printable : Node → Prop
  | line : Line.split line = [line] → Keyword.first? line = none →
      Node.Printable (.ofLine line)
  | block {guard : Guard} : guard.Worded → PrintableNodes nodes → PrintableRest rest →
      Node.Printable (.block (⟨some guard, .group nodes⟩ :: rest))

inductive PrintableNodes : List Node → Prop
  | nil : PrintableNodes []
  | cons : node.Printable → PrintableNodes rest → PrintableNodes (node :: rest)

/-- The branches behind the first one, of which the last may be the last resort. -/
inductive PrintableRest : List (Branch Node) → Prop
  | nil : PrintableRest []
  | otherwise : PrintableNodes nodes → PrintableRest [⟨none, .group nodes⟩]
  | elseIf {guard : Guard} : guard.Worded → PrintableNodes nodes → PrintableRest rest →
      PrintableRest (⟨some guard, .group nodes⟩ :: rest)

end

end Printing

section Lines
variable {line : Text} {k : Keyword} {guard : Guard}

theorem Keyword.first?_of_at? (h : at? line = some k) : first? line = some k := by
  cases line with
  | nil => cases h
  | cons c s => rw [first?, h, Option.some_or]

theorem at?_branchLine (starts : k = .opening ∨ k = .elseIf) (guard : Guard) :
    Keyword.at? (branchLine k (some guard)) = some k := by
  rcases starts with rfl | rfl <;> rfl

/-- The guard of a directive is the one that was written out in it. -/
theorem guard_branchLine (starts : k = .opening ∨ k = .elseIf) (h : guard.Worded) :
    k.guard (branchLine k (some guard)) = guard := by
  have slash : '/' ∉ ' ' :: guard.toText := by
    rw [List.mem_cons, not_or]
    exact ⟨by decide, fun mem => absurd (h.written '/' mem) (by decide)⟩
  have whole : Text.cut? "//".toList (' ' :: guard.toText) = none :=
    Text.cut?_eq_none_of_count '/' (by rw [List.count_eq_zero.mpr slash]; decide)
  have blank : ∀ c ∈ [' '], Unicode.isBlank c = true := List.all_eq_true.mp (by decide)
  have trimmed : Text.trim (' ' :: guard.toText) = guard.toText := by
    have trimmed := Text.trim_append (b := []) blank h.tight (List.forall_mem_nil _)
    rwa [List.append_nil] at trimmed
  have condition : k.condition (branchLine k (some guard)) = guard.toText := by
    simp only [Keyword.condition, branchLine, List.drop_left, whole]
    exact trimmed
  rcases starts with rfl | rfl
  · exact (congrArg Guard.parse condition).trans h.parse_toText
  · exact (congrArg Guard.parse condition).trans h.parse_toText

theorem split_branchLine (starts : k = .opening ∨ k = .elseIf) (h : guard.Worded) :
    Line.split (branchLine k (some guard)) = [branchLine k (some guard)] := by
  have written (c : Char) (other : Guard.isWritten c = false) (own : c ∉ k.spelling) :
      c ∉ branchLine k (some guard) := by
    intro mem
    rcases List.mem_append.mp mem with mem | mem
    · exact own mem
    rcases List.mem_cons.mp mem with rfl | mem
    · exact absurd other (by decide)
    · exact ne_true_of_eq_false other (h.written c mem)
  rcases starts with rfl | rfl
  · exact Line.split_directive rfl (written '\n' (by decide) (by decide))
      (written '\r' (by decide) (by decide))
  · exact Line.split_directive rfl (written '\n' (by decide) (by decide))
      (written '\r' (by decide) (by decide))

theorem split_otherwise :
    Line.split Keyword.otherwise.spelling = [Keyword.otherwise.spelling] := by decide

theorem split_endif : Line.split Keyword.endif.spelling = [Keyword.endif.spelling] := by decide

end Lines

/-- Reading the lines, each of which is one logical line, takes the builder from one state to the
other. -/
inductive Grows : Builder → List Text → Builder → Prop
  | nil : Grows b [] b
  | cons : Line.split line = [line] → (b.step line).value = .grown b' → Grows b' rest b'' →
      Grows b (line :: rest) b''

namespace Grows
variable {b b' b'' : Builder} {first last : List Text}

theorem append (h : Grows b first b') (h' : Grows b' last b'') : Grows b (first ++ last) b'' := by
  induction h with
  | nil => exact h'
  | cons whole step _ ih => exact .cons whole step (ih h')

theorem split_eq_self (h : Grows b first b') : ∀ line ∈ first, Line.split line = [line] := by
  induction h with
  | nil => exact List.forall_mem_nil _
  | cons whole _ _ ih => exact List.forall_mem_cons.mpr ⟨whole, ih⟩

theorem run_nodes (h : Grows b first b') (current : Text) :
    (b.run current first).value.nodes = b'.finish := by
  induction h generalizing current with
  | nil => rfl
  | cons _ step _ ih =>
    rw [Builder.run, Traced.value_bind, step]
    exact ih _

/-- The tree of a text is what a builder grows to over its lines. -/
theorem ofSource_join (h : Grows {} first b) :
    (ofSource (Text.join ['\n'] first)).value = .group b.finish := by
  have nodes : (segment (.ofSource (Text.join ['\n'] first))).value.nodes = b.finish := by
    rw [segment, Line.Cursor.ofSource, Line.split_join h.split_eq_self]
    exact h.run_nodes []
  exact congrArg Node.group nodes

end Grows

section Steps
variable {nodes before : List Node} {done : List (Branch Node)} {blocks : List OpenBlock}
  {guard guard' : Guard}

theorem step_ofLine {line : Text} (free : Keyword.first? line = none) (b : Builder) :
    (b.step line).value = .grown (b.add (.ofLine line)) := by
  rw [Builder.step, free]
  rfl

theorem step_opening (h : guard.Worded) (b : Builder) :
    (b.step (branchLine .opening (some guard))).value = .grown (b.openBlock guard) := by
  have starts := at?_branchLine (.inl rfl) guard
  have value := guardOfLine_value starts (by decide)
  rw [Builder.step, Keyword.first?_of_at? starts]
  exact congrArg (fun g => Step.grown (b.openBlock g))
    (value.trans (guard_branchLine (.inl rfl) h))

theorem step_elseIf (h : guard'.Worded) :
    let block : OpenBlock := ⟨done, some guard, before⟩
    (Builder.step ⟨nodes, block :: blocks⟩ (branchLine .elseIf (some guard'))).value =
      .grown ⟨[], ⟨Builder.branch block nodes :: done, some guard', before⟩ :: blocks⟩ := by
  intro block
  have starts := at?_branchLine (.inr rfl) guard'
  have value := guardOfLine_value starts (by decide)
  simp only [Builder.step, Keyword.first?_of_at? starts, Builder.continueBlock,
    Continuation.ofLine_elseIf starts]
  exact congrArg (fun g => Step.grown (Builder.nextBranch (some g) ⟨nodes, block :: blocks⟩))
    (value.trans (guard_branchLine (.inr rfl) h))

theorem step_otherwise (k : Keyword) :
    let block : OpenBlock := ⟨done, some guard, before⟩
    (Builder.step ⟨nodes, block :: blocks⟩ (branchLine k none)).value =
      .grown ⟨[], ⟨Builder.branch block nodes :: done, none, before⟩ :: blocks⟩ := rfl

theorem step_endif (nodes : List Node) (block : OpenBlock) (blocks : List OpenBlock) :
    (Builder.step ⟨nodes, block :: blocks⟩ Keyword.endif.spelling).value =
      .grown ⟨Builder.enclose block nodes, blocks⟩ := rfl

end Steps

theorem print_group (nodes : List Node) : (Node.group nodes).print = printNodes nodes := by
  simp [Node.group, Node.print]

mutual

theorem Node.Printable.grows (h : Node.Printable node) (b : Builder) :
    Grows b node.print (b.add node) := by
  cases h with
  | line whole free => exact .cons whole (step_ofLine free b) .nil
  | @block nodes rest guard worded inside others =>
    have body := inside.grows (b.openBlock guard)
    have behind := others.grows guard [] b.nodes b.blocks (nodes.reverse ++ [])
    have grown := Grows.cons (split_branchLine (.inl rfl) worded) (step_opening worded b)
      (body.append behind)
    simpa [Node.print, printBranches, print_group, Builder.add] using grown

theorem PrintableNodes.grows (h : PrintableNodes nodes) (b : Builder) :
    Grows b (printNodes nodes) ⟨nodes.reverse ++ b.nodes, b.blocks⟩ := by
  cases h with
  | nil => exact .nil
  | cons first others =>
    have grown := (first.grows b).append (others.grows (b.add _))
    simpa [printNodes, Builder.add] using grown

/-- The branches behind one that has a guard, and the end of the block. -/
theorem PrintableRest.grows (h : PrintableRest rest) (guard : Guard) (done : List (Branch Node))
    (before : List Node) (blocks : List OpenBlock) (nodes : List Node) :
    Grows ⟨nodes, ⟨done, some guard, before⟩ :: blocks⟩
      (printBranches .elseIf rest ++ [Keyword.endif.spelling])
      ⟨.block (done.reverse ++ ⟨some guard, .group nodes.reverse⟩ :: rest) :: before, blocks⟩ := by
  -- The branch before the next directive joins those that are done.
  let joined := Builder.branch ⟨done, some guard, before⟩ nodes :: done
  cases h with
  | nil =>
    have grown := Grows.cons split_endif (step_endif nodes ⟨done, some guard, before⟩ blocks)
      .nil
    simpa [printBranches, Builder.enclose, Builder.branch] using grown
  | @otherwise last inside =>
    let block : OpenBlock := ⟨joined, none, before⟩
    have body := inside.grows ⟨[], block :: blocks⟩
    have ends := Grows.cons split_endif (step_endif (last.reverse ++ []) block blocks) .nil
    have grown := Grows.cons split_otherwise (step_otherwise .elseIf) (body.append ends)
    simpa [printBranches, branchLine, print_group, Builder.enclose, Builder.branch, block, joined]
      using grown
  | @elseIf next others guard' worded inside more =>
    have body := inside.grows ⟨[], ⟨joined, some guard', before⟩ :: blocks⟩
    have behind := more.grows guard' joined before blocks (next.reverse ++ [])
    have grown := Grows.cons (split_branchLine (.inr rfl) worded) (step_elseIf worded)
      (body.append behind)
    simpa [printBranches, print_group, Builder.branch, joined] using grown

end

/-- Building the tree of a source gives back the nodes that were written out as it. -/
theorem ofSource_sourceOf {nodes : List Node} (h : PrintableNodes nodes) :
    (ofSource (sourceOf nodes)).value = .group nodes := by
  have grown : Grows {} (printNodes nodes) ⟨nodes.reverse, []⟩ := by
    simpa using h.grows {}
  have finished : Builder.finish ⟨nodes.reverse, []⟩ = nodes := List.reverse_reverse nodes
  rw [sourceOf, grown.ofSource_join, finished]

/-- A block within a block, a guard with both junctions and a negative number, and all kinds of
branches. -/
theorem ofSource_sourceOf_nested :
    let signed : Guard := .compare "B".toList .greaterOrEqual "-2".toList
    let nodes : List Node := [
      .ofLine "x = 1;".toList,
      .block [
        ⟨some (.and (.defined "A".toList true) (.or signed (.defined "C".toList false))), .group [
          .ofLine "#define D 2".toList,
          .block [⟨some (.defined "D".toList false), .group []⟩]]⟩,
        ⟨some signed, .group [.ofLine "  // y; z".toList]⟩,
        ⟨none, .group [.ofLine "w".toList]⟩]]
    let source := ("x = 1;\n#if (!defined(A) && (B >= -2 || defined(C)))\n#define D 2\n" ++
      "#if defined(D)\n#endif\n#elif B >= -2\n  // y; z\n#else\nw\n#endif").toList
    PrintableNodes nodes ∧ sourceOf nodes = source ∧ (ofSource source).value = .group nodes := by
  intro signed nodes source
  have line {s : Text} (h : Line.split s = [s] ∧ Keyword.first? s = none) :
      Node.Printable (.ofLine s) := .line h.1 h.2
  have inner : Node.Printable (.block [⟨some (.defined "D".toList false), .group []⟩]) :=
    .block (by decide) .nil .nil
  have printable : PrintableNodes nodes :=
    .cons (line (by decide)) (.cons
      (.block (by decide) (.cons (line (by decide)) (.cons inner .nil))
        (.elseIf (by decide) (.cons (line (by decide)) .nil)
          (.otherwise (.cons (line (by decide)) .nil)))) .nil)
  have written : sourceOf nodes = source := by decide +kernel
  exact ⟨printable, written, written ▸ ofSource_sourceOf printable⟩

end ShaderPrep.Tree
