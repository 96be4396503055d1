import ShaderPrep.Proofs.Conditional.Evaluation
import ShaderPrep.Proofs.Conditional.Reading
import ShaderPrep.Proofs.Line.Stable
import ShaderPrep.Proofs.Target.Hookless

/-! What evaluating conditionals puts out where no hook changes lines: lines of the source that
have no keyword, each with a line end behind it. Such a text has no conditionals left, and reading
it again puts out all of it, whatever symbols there are. -/
namespace ShaderPrep

namespace Tree

theorem Keyword.mem_all (k : Keyword) : k ∈ all := by cases k <;> decide

theorem Keyword.spelling_ne_nil (k : Keyword) : k.spelling ≠ [] := by cases k <;> decide

/-- A text has no first keyword exactly if none occurs in it. -/
theorem Keyword.first?_eq_none_iff {s : Text} :
    first? s = none ↔ ∀ k : Keyword, Text.occurs k.spelling s = false := by
  induction s with
  | nil => exact ⟨fun _ k => Text.occurs_nil k.spelling_ne_nil, fun _ => rfl⟩
  | cons c s ih =>
    have here : at? (c :: s) = none ↔ ∀ k : Keyword, Text.begins k.spelling (c :: s) = false := by
      simp only [at?, List.find?_eq_none, Bool.not_eq_true, mem_all, true_implies]
    simp only [first?, Option.or_eq_none_iff, here, ih, Text.occurs_cons, Bool.or_eq_false_iff,
      forall_and]

/-- Keywords do not reach over the ends of lines. -/
theorem Keyword.first?_flatMap {lines : List Text} (free : ∀ line ∈ lines, first? line = none) :
    first? (lines.flatMap (· ++ lineEnd)) = none := by
  refine first?_eq_none_iff.mpr fun k => ?_
  have ends : '\r' ∉ k.spelling ∧ '\n' ∉ k.spelling := by cases k <;> decide
  induction lines with
  | nil => exact Text.occurs_nil k.spelling_ne_nil
  | cons line rest ih =>
    have first := first?_eq_none_iff.mp (free line List.mem_cons_self) k
    have others := ih fun l mem => free l (List.mem_cons_of_mem line mem)
    have whole : (line :: rest).flatMap (· ++ lineEnd) =
        line ++ '\r' :: ([] ++ '\n' :: rest.flatMap (· ++ lineEnd)) := by simp [lineEnd]
    rw [← Bool.not_eq_true, whole, Text.occurs_append_cons ends.1, Text.occurs_append_cons ends.2,
      first, Text.occurs_nil k.spelling_ne_nil, others]
    decide

namespace Reading
variable {edit : LineEdit τ}

/-- The lines put out are lines without a keyword. -/
theorem mem_edited {lines : List Text} {start : RenderState τ} {line : Text}
    (h : line ∈ (run edit lines start).machine.edited) :
    line ∈ lines ∧ Keyword.first? line = none := by
  revert line
  apply foldl_invariant (P := fun m => ∀ line ∈ m.edited, line ∈ lines ∧ Keyword.first? line = none)
    (fun _ _ kept => kept)
  · intro line mem m free active kept l inside
    rw [emit_edited line active] at inside
    rcases List.mem_append.mp inside with inside | own
    · exact kept l inside
    · obtain rfl := List.mem_singleton.mp own
      exact ⟨mem, free⟩
  · exact fun _ none => nomatch none

/-- Lines without a keyword are all put out where lines are active. -/
theorem foldl_read_of_free {lines : List Text} (free : ∀ line ∈ lines, Keyword.first? line = none)
    {r : Reading τ} (ended : r.ended = false) (active : r.machine.active = true) :
    (lines.foldl (read edit) r).machine.edited = r.machine.edited ++ lines := by
  induction lines generalizing r with
  | nil => exact (List.append_nil _).symm
  | cons line rest ih =>
    rw [List.foldl_cons, read_of_free (free line List.mem_cons_self) ended]
    have still : (r.machine.emit edit line).active = true := by simp [Machine.emit, active]
    have others := ih (r := { r with machine := r.machine.emit edit line })
      (fun l mem => free l (List.mem_cons_of_mem line mem)) ended still
    rw [others, emit_edited line active, List.append_assoc, List.singleton_append]

end Reading
end Tree

namespace Options
variable {σ : Type} {o : Options σ}

/-- How conditionals read a source under symbols that are given. -/
def reads (o : Options σ) (lines : List Text) (symbols : Symbols) (s : Session σ) :
    Tree.Reading (LineState σ) :=
  Tree.Reading.run (Target.lineEdit o.target o.isFragment) lines ⟨symbols, s.lines⟩

theorem value_evaluate_reads (source : Text) (symbols : Symbols) (s : Session σ) :
    (o.evaluate source symbols s).value.1 =
      let m := (o.reads (Line.split source) symbols s).machine
      (m.output, m.state.symbols) := by
  rw [value_evaluate, Tree.render_ofSource_eq_reading]
  rfl

theorem value_evaluate_hookless (hookless : Target.Hookless o.target) (source : Text)
    (symbols : Symbols) (s : Session σ) :
    (o.evaluate source symbols s).value.1.1 =
      (o.reads (Line.split source) symbols s).machine.edited.flatMap (· ++ Tree.lineEnd) := by
  rw [value_evaluate_reads]
  exact Tree.Reading.output_eq_edited (fun symbols line state =>
    Target.lineEdit_hookless o.isFragment symbols line state hookless) _ _

/-- What evaluating the conditionals of any source puts out has no keyword of a conditional, and
evaluating it again under any symbols gives it back. -/
theorem evaluate_evaluate (hookless : Target.Hookless o.target) (source : Text)
    (symbols symbols' : Symbols) (s s' : Session σ) :
    let out := (o.evaluate source symbols s).value.1.1
    (∀ k : Tree.Keyword, Text.occurs k.spelling out = false) ∧
      (o.evaluate out symbols' s').value.1.1 = out := by
  intro out
  let lines := (o.reads (Line.split source) symbols s).machine.edited
  have kept (line : Text) (mem : line ∈ lines) :
      Line.Stable line ∧ Tree.Keyword.first? line = none :=
    (Tree.Reading.mem_edited mem).imp_left Line.stable_of_mem_split
  have written : out = lines.flatMap (· ++ Tree.lineEnd) :=
    value_evaluate_hookless hookless source symbols s
  constructor
  · rw [written]
    exact Tree.Keyword.first?_eq_none_iff.mp
      (Tree.Keyword.first?_flatMap fun line mem => (kept line mem).2)
  · have again : Line.split out = lines := by
      rw [written]
      exact Line.split_flatMap fun line mem => (kept line mem).1
    have all : (o.reads (Line.split out) symbols' s').machine.edited = lines := by
      rw [again]
      exact Tree.Reading.foldl_read_of_free (fun line mem => (kept line mem).2) rfl rfl
    rw [value_evaluate_hookless hookless, all, written]

/-- A comment and code on lines that end in different ways, a block that is left open, and lines
that are directives and comments only once code is split. -/
theorem evaluate_evaluate_malformed :
    let o : Options Unit := {}
    let s : Session Unit := { lines := { target := () } }
    let source := "\t// x; y\r\r\nu ;#v; // w\n#if A\nz \n#else q\n  #define B 1; C\n".toList
    let out := "\t// x; y\r\r\nu;\r\n#v;\r\n// w\r\nz\r\n".toList
    (o.evaluate source (Symbols.ofEntries ["A".toList]) s).value.1.1 = out ∧
      (o.evaluate out ∅ s).value.1.1 = out := by
  intro o s source out
  have once : (o.evaluate source (Symbols.ofEntries ["A".toList]) s).value.1.1 = out := by
    decide +kernel
  have again := (evaluate_evaluate (o := o) .none source (Symbols.ofEntries ["A".toList]) ∅ s s).2
  exact ⟨once, once ▸ again⟩

end Options
end ShaderPrep
