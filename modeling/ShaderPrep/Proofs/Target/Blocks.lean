import Mathlib.Data.List.Chain
import ShaderPrep.Proofs.Target.Watching
import ShaderPrep.Proofs.Tree.Rendering

/-! Uniform blocks over a whole rendering. A line opens a block if the hook for its start answers,
and the first line with a closing brace from there on closes it; in between no hook for uniforms or
for the start of a block is called. So opens and closes alternate, whatever the hooks answer and
wherever blocks begin and end in the tree. -/
namespace ShaderPrep

/-- Whether the call opens a block or closes one. -/
def HookCall.turn? : HookCall → Option Bool
  | .blockStart true => some true
  | .blockEnd => some false
  | .blockStart false | .uniform => none

namespace Visit

/-- The opens and closes of blocks on a line, in order; an open is true. -/
def turns (v : Visit) : List Bool := v.calls.filterMap HookCall.turn?

/-- The line opens a block. -/
def Opens (v : Visit) : Prop := HookCall.blockStart true ∈ v.calls

end Visit

/-- The calls for what a line declares, with the flag for an open block before and behind them. -/
inductive Declares : Bool → List HookCall → Bool → Prop
  | silent : Declares inBlock [] inBlock
  | uniform : Declares false [.uniform] false
  | blockStart (answered : Bool) : Declares false [.blockStart answered] answered

/-- All that can happen to a line, with the flag for an open block before and behind it. -/
inductive Visited : Bool → Visit → Bool → Prop
  | closes : Declares before calls true → '}' ∈ line →
      Visited before ⟨line, calls ++ [.blockEnd]⟩ false
  | stays : Declares before calls after → (after = true → '}' ∉ line) →
      Visited before ⟨line, calls⟩ after

/-- Lines that follow each other from where no block is open, with the flag behind the last. -/
inductive Visits : List Visit → Bool → Prop
  | nil : Visits [] false
  | concat : Visits visits before → Visited before v after → Visits (visits ++ [v]) after

namespace Target
variable (t : Target σ) (isFragment : Bool) (symbols : Symbols) (line : Text) (s : LineState σ)

theorem inBlock_editInterface :
    (t.editInterface isFragment symbols line s).2.inBlock = s.inBlock := by
  have asked (hook : Hook σ Text) (s : LineState σ) : (ask hook s).2.inBlock = s.inBlock := rfl
  have varying (answer : Option Text) (s s' : LineState σ) :
      ((if answer.isNone && t.declaresVarying isFragment line s.target then
        ask (t.onVarying line isFragment symbols) else pure answer) s').2.inBlock = s'.inBlock := by
    split
    · exact asked _ _
    · rfl
  change ((if !isFragment && Text.begins (t.attributeKeyword s.target) line then _ else _ :
    StateM (LineState σ) (Option Text)) s).2.inBlock = _
  split
  · exact (varying _ _ _).trans (asked _ _)
  · exact varying _ _ _

theorem declares_editDeclaration (declared : Declaration) :
    Declares s.inBlock (t.declarationCalls isFragment line declared s)
      (t.editDeclaration isFragment symbols line declared s).2.inBlock := by
  obtain ⟨target, inBlock⟩ := s
  cases declared with
  | uniform =>
    cases inBlock with
    | false => exact .uniform
    | true => exact .silent
  | block =>
    cases inBlock with
    | false => exact .blockStart _
    | true => exact .silent
  | texture | other => exact .silent

theorem visited_closeBlock {before : Bool} {calls : List HookCall}
    (h : Declares before calls s.inBlock) :
    Visited before ⟨line, calls ++ closingCalls line s⟩
      (t.closeBlock isFragment line s).2.inBlock := by
  have work : t.closeBlock isFragment line s =
      (if s.inBlock && line.contains '}' then do
        modify fun s => { s with inBlock := false }
        ask (t.onBlockEnd line isFragment)
      else pure none : StateM (LineState σ) (Option Text)) s := rfl
  rw [work, closingCalls]
  split
  · next both =>
    obtain ⟨inBlock, brace⟩ := Bool.and_eq_true_iff.mp both
    exact .closes (inBlock ▸ h) (List.contains_iff_mem.mp brace)
  · next other =>
    rw [List.append_nil]
    exact .stays h fun inBlock brace =>
      other (Bool.and_eq_true_iff.mpr ⟨inBlock, List.contains_iff_mem.mpr brace⟩)

/-- One line, from its first hook to its last. -/
theorem visited_editLine :
    Visited s.inBlock ⟨line, t.lineCalls isFragment symbols line s⟩
      (t.editLine isFragment symbols line s).2.inBlock := by
  have behind (first interface : Option Text) (declared : Declaration) (s' : LineState σ)
      (kept : s'.inBlock = s.inBlock) :
      Visited s.inBlock ⟨line, t.callsBehind isFragment symbols line declared interface s'⟩
        ((do
          let answer ←
            if interface.isSome then pure interface
            else t.editDeclaration isFragment symbols line declared
          let last ← t.closeBlock isFragment line
          return last.getD (answer.getD (first.getD line)) :
            StateM (LineState σ) Text) s').2.inBlock := by
    rw [← kept]
    cases interface with
    | none =>
      exact t.visited_closeBlock isFragment line _
        (t.declares_editDeclaration isFragment symbols line s' declared)
    | some text => exact t.visited_closeBlock isFragment line _ .silent
  exact behind _ _ _ _ (t.inBlock_editInterface isFragment symbols line _)

end Target

/-- Opens and closes by turns, an open first; a block is open if an open is last. -/
structure Alternate (turns : List Bool) (inBlock : Bool) : Prop where
  chain : turns.IsChain (· ≠ ·)
  first : turns.head? ≠ some false
  last : inBlock = true ↔ turns.getLast? = some true

theorem Alternate.turn {turns : List Bool} {inBlock : Bool} (h : Alternate turns inBlock) :
    Alternate (turns ++ [!inBlock]) (!inBlock) := by
  obtain ⟨chain, first, last⟩ := h
  refine ⟨?_, ?_, by simp⟩
  · refine List.isChain_append.mpr ⟨chain, List.isChain_singleton _, ?_⟩
    rintro x ends y ⟨⟩
    cases inBlock <;> cases x <;> simp_all
  · cases turns with
    | nil =>
      cases inBlock with
      | false => simp
      | true => cases last.mp rfl
    | cons turn turns => simpa using first

namespace Declares
variable {calls : List HookCall} {before after : Bool}

theorem quiet (h : Declares true calls after) : calls = [] := by
  cases h
  rfl

theorem after_iff (h : Declares before calls after) :
    after = true ↔ before = true ∨ HookCall.blockStart true ∈ calls := by
  cases h <;> simp

theorem alternate {turns : List Bool} (h : Declares before calls after)
    (alternate : Alternate turns before) :
    Alternate (turns ++ calls.filterMap HookCall.turn?) after := by
  cases h with
  | silent => simpa using alternate
  | uniform =>
    rw [show [HookCall.uniform].filterMap HookCall.turn? = [] from rfl, List.append_nil]
    exact alternate
  | blockStart =>
    cases after with
    | false =>
      rw [show [HookCall.blockStart false].filterMap HookCall.turn? = [] from rfl, List.append_nil]
      exact alternate
    | true => exact alternate.turn

end Declares

namespace Visited
variable {v : Visit} {before after : Bool}

theorem quiet (h : Visited true v after) : ∀ call ∈ v.calls, call = .blockEnd := by
  cases h with
  | closes declares brace => simp [declares.quiet]
  | stays declares open_ => simp [declares.quiet]

/-- A block is open behind a line if one was before it or the line opens one, and the line has no
closing brace. -/
theorem after_iff (h : Visited before v after) :
    after = true ↔ (before = true ∨ v.Opens) ∧ '}' ∉ v.line := by
  cases h with
  | closes declares brace => simp [brace]
  | stays declares open_ =>
    rw [Visit.Opens, ← declares.after_iff]
    exact ⟨fun inBlock => ⟨inBlock, open_ inBlock⟩, And.left⟩

theorem alternate {turns : List Bool} (h : Visited before v after)
    (alternate : Alternate turns before) : Alternate (turns ++ v.turns) after := by
  cases h with
  | closes declares brace =>
    have closed := (declares.alternate alternate).turn
    rw [List.append_assoc] at closed
    rw [Visit.turns, List.filterMap_append]
    exact closed
  | stays declares open_ => exact declares.alternate alternate

end Visited

section Spans
variable {visits : List Visit} {i k : Nat} {v : Visit}

end Spans

namespace Visits
variable {visits : List Visit} {inBlock : Bool}

theorem alternate (h : Visits visits inBlock) :
    Alternate (visits.flatMap Visit.turns) inBlock := by
  induction h with
  | nil => exact ⟨.nil, nofun, by simp⟩
  | concat _ visited ih =>
    rw [List.flatMap_append, List.flatMap_singleton]
    exact visited.alternate ih

/-- What happened to one of the lines, behind those before it. -/
theorem visited (h : Visits visits inBlock) {k : Nat} {v : Visit} (at_ : visits[k]? = some v) :
    ∃ before after, Visits (visits.take k) before ∧ Visited before v after := by
  induction h with
  | nil => cases at_
  | @concat visits before w after earlier visited ih =>
    rcases Nat.lt_or_ge k visits.length with inside | last
    · rw [List.getElem?_append_left inside] at at_
      rw [List.take_append_of_le_length (Nat.le_of_lt inside)]
      exact ih at_
    · obtain ⟨bound, same⟩ := List.getElem?_eq_some_iff.mp at_
      rw [List.length_append, List.length_singleton] at bound
      obtain rfl : k = visits.length := by omega
      rw [List.getElem_concat_length rfl] at same
      rw [List.take_left, ← same]
      exact ⟨before, after, earlier, visited⟩

end Visits

namespace Target

end Target
end ShaderPrep
