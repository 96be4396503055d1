import Mathlib.Data.List.Basic
import ShaderPrep.Processing.Run
import ShaderPrep.Proofs.Conditional.Simulation
import ShaderPrep.Proofs.Target.Watching

/-! Evaluating the conditionals of a well nested source is a run of the conditional machine, under
every target and whatever state its hooks keep. A target that notes the lines its line hook is
asked about shows which lines are edited, how often and in which order. -/
namespace ShaderPrep

namespace Target

/-- The target with a list of the lines that its line hook was asked about, the latest last. -/
def noting (t : Target σ) : Target (σ × List Text) :=
  t.annotated ⟨fun line noted => noted ++ [line], fun _ => id⟩

/-- Editing a line asks the line hook about it, once. -/
theorem editLine_noting (t : Target σ) (isFragment : Bool) (symbols : Symbols) (line : Text)
    (s : LineState σ) (noted : List Text) :
    t.noting.editLine isFragment symbols line (s.watched noted) =
      ((t.editLine isFragment symbols line s).1,
        (t.editLine isFragment symbols line s).2.watched (noted ++ [line])) := by
  rw [noting, editLine_annotated]
  dsimp only [id]
  rw [List.foldl_fixed]

end Target

namespace Tree.Machine
variable (t : Target σ) (isFragment : Bool)

/-- The machine with the lines it has edited as noted lines. -/
def noting (m : Machine (LineState σ)) : Machine (LineState (σ × List Text)) :=
  { m with state := ⟨m.state.symbols, m.state.lines.watched m.edited⟩ }

theorem read_noting (m : Machine (LineState σ)) (line : Text) :
    m.noting.read (t.noting.editLine isFragment) line =
      (m.read (t.editLine isFragment) line).noting := by
  obtain ⟨frames, active, output, edited, state⟩ := m
  simp only [read]
  cases Keyword.at? line with
  | none =>
    cases active with
    | false => rfl
    | true =>
      simp only [emit, noting, if_true, Target.editLine_noting]
      cases (if Text.begins "#d".toList line then LineDefine.ofLine? line else none) <;> rfl
  | some k =>
    cases k with
    | ifdef | ifndef | opening => rfl
    | otherwise | elseIf | endif => cases frames <;> rfl

theorem run_noting (lines : List Text) (symbols : Symbols) (s : LineState σ) :
    run (t.noting.editLine isFragment) lines ⟨symbols, s.watched []⟩ =
      (run (t.editLine isFragment) lines ⟨symbols, s⟩).noting := by
  have fold (m : Machine (LineState σ)) :
      lines.foldl (read (t.noting.editLine isFragment)) m.noting =
        (lines.foldl (read (t.editLine isFragment)) m).noting := by
    induction lines generalizing m with
    | nil => rfl
    | cons line rest ih => rw [List.foldl_cons, List.foldl_cons, read_noting, ih]
  exact fold { state := ⟨symbols, s⟩ }

end Tree.Machine

namespace Options

/-- The same run under a target that notes the lines its line hook is asked about. -/
def noting (o : Options σ) : Options (σ × List Text) where
  toSettings := o.toSettings
  target := o.target.map Target.noting
  afterIncludes := o.afterIncludes

theorem value_evaluate (o : Options σ) (source : Text) (symbols : Symbols) (s : Session σ) :
    (o.evaluate source symbols s).value =
      let rendered := (Tree.ofSource source).value.render
        (Target.lineEdit o.target o.isFragment) ⟨symbols, s.lines⟩
      ((rendered.1, rendered.2.symbols), { s with lines := rendered.2.lines }) := rfl

/-- Evaluating a well nested source is one run of the conditional machine over its lines: text,
symbols and the state of the target come out alike. The line hook is asked about the lines that
the machine edits, once each and in order, and about no other. -/
theorem evaluate_eq_machine (o : Options σ) (source : Text) (symbols : Symbols) (s : Session σ)
    (leads : ∀ line ∈ Line.split source, Tree.KeywordLeads line)
    (nested : Tree.wellNested [] (Line.split source) = true) :
    let m := Tree.Machine.run (Target.lineEdit o.target o.isFragment) (Line.split source)
      ⟨symbols, s.lines⟩
    (o.evaluate source symbols s).value =
        ((m.output, m.state.symbols), { s with lines := m.state.lines }) ∧
      (o.target.isSome = true →
        (o.noting.evaluate source symbols ⟨s.store, s.lines.watched []⟩).value =
          ((m.output, m.state.symbols), ⟨s.store, m.state.lines.watched m.edited⟩)) := by
  intro m
  constructor
  · rw [value_evaluate, Tree.render_ofSource _ _ leads nested]
  · intro some
    obtain ⟨t, target⟩ := Option.isSome_iff_exists.mp some
    rw [value_evaluate, Tree.render_ofSource _ _ leads nested]
    simp only [noting, target, Option.map_some, Target.lineEdit, Tree.Machine.run_noting, m]
    rfl

/-- A block in a branch that is skipped, one in a branch that is taken, and a symbol that a line
of the latter defines. -/
theorem evaluate_eq_machine_nested :
    let source :=
      ("#if A > 1\n#ifdef B\nx\n#endif\n#elif A\n" ++
        "#define C 2\n#if C == 2\ny; z\n#endif\n#else\nw").toList
    let o : Options Unit := { target := some (.plain .glsl) }
    let symbols := Symbols.ofEntries ["A 1".toList]
    (∀ line ∈ Line.split source, Tree.KeywordLeads line) ∧
      Tree.wellNested [] (Line.split source) = true ∧
      (o.evaluate source symbols { lines := { target := () } }).value.1.1 =
        "#define C 2\r\ny;\r\nz\r\n".toList := by
  intro source o symbols
  have leads : ∀ line ∈ Line.split source, Tree.KeywordLeads line := by decide +kernel
  have nested : Tree.wellNested [] (Line.split source) = true := by decide +kernel
  refine ⟨leads, nested, ?_⟩
  rw [(evaluate_eq_machine o source symbols _ leads nested).1]
  decide +kernel

end Options
end ShaderPrep
