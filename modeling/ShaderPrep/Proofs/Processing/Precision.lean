import ShaderPrep.Proofs.Conditional.Output
import ShaderPrep.Proofs.Processing.Respelling

/-! A precision that is declared in front of a source. Where no hook changes lines it stays one line
of its own, whatever the source starts with: it belongs to no conditional and no symbol is set
there. So a stage is processed as it is preprocessed, but for this line. -/
namespace ShaderPrep

namespace Tree

/-- A line that stays a line of its own in front of any source, that no conditional looks at, and
that defines nothing. -/
structure Inert (line : Text) : Prop where
  single : '\n' ∉ line
  own : Line.logical line = [line]
  free : Keyword.first? line = none
  undefined : defined? line = none

namespace Reading
variable {edit : LineEdit τ} {first line : Text}

/-- Machines with the same symbols, of which the first has put out some more text to begin with. -/
def Headed (first : Text) (m m' : Machine τ) : Prop :=
  m.output = first ++ m'.output ∧ m.state.symbols = m'.state.symbols

theorem joint_headed (keeps : ∀ symbols line state, (edit symbols line state).1 = line)
    (line : Text) : Joint (Headed (τ := τ) first) edit edit line where
  guards := by
    rintro m m' ⟨-, symbols⟩ guard -
    rw [symbols]
  puts := by
    rintro m m' free ⟨output, symbols⟩ active active'
    constructor
    · rw [emit_output keeps active, emit_output keeps active', output, List.append_assoc]
    · rw [emit_symbols free active, emit_symbols free active', symbols]

/-- An inert line in front is put out first, and all behind it as without it. -/
theorem output_run_cons (keeps : ∀ symbols line state, (edit symbols line state).1 = line)
    (inert : Inert line) (lines : List Text) (start : RenderState τ) :
    (run edit (line :: lines) start).machine.output =
      line ++ lineEnd ++ (run edit lines start).machine.output := by
  have headed : Headed (line ++ lineEnd) (Machine.emit edit line { state := start })
      { state := start } := by
    constructor
    · rw [emit_output keeps rfl, List.nil_append, List.append_nil]
    · rw [emit_symbols inert.free rfl, inert.undefined, Option.elim_none]
  have alike : Alike (Headed (line ++ lineEnd))
      (read edit { machine := { state := start } } line) { machine := { state := start } } := by
    rw [read_of_free inert.free rfl]
    exact ⟨rfl, rfl, rfl, rfl, headed⟩
  exact (alike.foldl (fun _ _ related => related) fun line _ => joint_headed keeps line).related.1

end Reading
end Tree

namespace Options
variable {σ : Type} {o : Options σ} {engine : Option Engine} {t : Target σ}

theorem value_evaluate_inert (silent : ∀ t ∈ o.target, t.Silent) {line : Text}
    (inert : Tree.Inert line) (source : Text) (symbols : Symbols) (s : Session σ) :
    (o.evaluate (line ++ '\n' :: source) symbols s).value.1.1 =
      line ++ Tree.lineEnd ++ (o.evaluate source symbols s).value.1.1 := by
  rw [value_evaluate_reads, value_evaluate_reads, Line.split_cut inert.single, inert.own]
  exact Tree.Reading.output_run_cons (fun symbols line state =>
    Target.lineEdit_silent o.isFragment symbols line state silent) inert _ _

/-- The line that declares a precision. -/
def precisionLine (high : Bool) : Text :=
  (if high then highPrecisionMark else mediumPrecisionMark) ++ [';']

theorem inert_precisionLine (high : Bool) : Tree.Inert (precisionLine high) := by
  cases high <;> constructor <;> decide

theorem withPrecision_of_missing {state : σ} {source : Text}
    (needed : o.target.any (·.skipsPrecision state) = false)
    (missing : Text.occurs highPrecisionMark source = false) :
    o.withPrecision state source = precisionLine o.highPrecision ++ '\n' :: source := by
  simp [withPrecision, precisionLine, needed, missing]

theorem withPrecision_of_declared {state : σ} {source : Text} (asked : o.highPrecision = true)
    (declared : Text.occurs highPrecisionMark source = true) :
    o.withPrecision state source = source := by
  simp [withPrecision, asked, declared]

/-- The mark of the third version neither stands in the line nor reaches over its end. -/
theorem isVersion3_precisionLine (t : Target σ) (state : σ) (high : Bool) (source : Text) :
    isVersion3 t state (precisionLine high ++ '\n' :: source) = isVersion3 t state source := by
  have unmarked : Text.occurs "#version 3".toList (precisionLine high) = false := by
    cases high <;> decide
  have same : Text.occurs "#version 3".toList (precisionLine high ++ '\n' :: source) =
      Text.occurs "#version 3".toList source := by
    rw [Bool.eq_iff_iff, Text.occurs_append_cons (by decide), unmarked]
    simp
  rw [isVersion3, isVersion3, same]

theorem convertStage_of_unmarked (target : o.target = some t) {source : Text} {s : Session σ}
    (unmarked : isVersion3 t s.lines.target (o.withPrecision s.lines.target source) = false) :
    o.convertStage engine source s =
      o.convert engine (o.withPrecision s.lines.target source) s := by
  rw [convertStage, target]
  change (if isVersion3 t s.lines.target (o.withPrecision s.lines.target source) then _
    else o.convert engine (o.withPrecision s.lines.target source) : Run σ Text) s = _
  rw [unmarked]
  rfl

/-- A stage of no third version is converted as without a precision, behind the line that declares
one if high precision is declared nowhere. -/
theorem value_convertStage_silent (target : o.target = some t)
    (silent : ∀ t ∈ o.target, t.Silent) (kept : engine.bind (·.inlining) = none)
    {source : Text} {s : Session σ} (needed : t.skipsPrecision s.lines.target = false)
    (unmarked : isVersion3 t s.lines.target source = false) :
    (Text.occurs highPrecisionMark source = false →
      (o.convertStage engine source s).value.1 = precisionLine o.highPrecision ++ Tree.lineEnd ++
        (o.convert engine source s).value.1) ∧
    (Text.occurs highPrecisionMark source = true → o.highPrecision = true →
      (o.convertStage engine source s).value.1 = (o.convert engine source s).value.1) := by
  constructor
  · intro missing
    have headed : o.withPrecision s.lines.target source =
        precisionLine o.highPrecision ++ '\n' :: source :=
      withPrecision_of_missing (by rw [target]; exact needed) missing
    have unmarked' : isVersion3 t s.lines.target (o.withPrecision s.lines.target source) =
        false := by rw [headed, isVersion3_precisionLine, unmarked]
    rw [convertStage_of_unmarked target unmarked', headed, value_convert_silent silent,
      value_convert_silent silent, inlined_of_none kept, inlined_of_none kept]
    exact value_evaluate_inert silent (inert_precisionLine _) source _ _
  · intro declared asked
    have same : o.withPrecision s.lines.target source = source :=
      withPrecision_of_declared asked declared
    rw [convertStage_of_unmarked target (by rw [same, unmarked]), same]

/-- Under a target that declines every hook, processing fails as preprocessing does or resolves
includes alike. A source without the mark of the third version is then processed as it is
preprocessed, behind the precision if high precision is not declared anywhere. -/
theorem process_eq_preprocess (target : o.target = some t) (silent : t.Silent) (s : Session σ)
    (needed : t.skipsPrecision s.lines.target = false) (plain : o.afterIncludes = none)
    (kept : engine.bind (·.inlining) = none) (source : Text) :
    match (o.preprocess engine source s).value.1 with
    | .error failure => (o.process engine source s).value.1 = .error failure
    | .ok ⟨code, resolved⟩ => ∃ code', (o.process engine source s).value.1 = .ok ⟨code', resolved⟩ ∧
      (t.language s.lines.target ≠ .glsl ∨ Text.occurs "#version 3".toList resolved = false →
        (Text.occurs highPrecisionMark resolved = false →
          code' = precisionLine o.highPrecision ++ Tree.lineEnd ++ code) ∧
        (Text.occurs highPrecisionMark resolved = true → o.highPrecision = true →
          code' = code)) := by
  have silent : ∀ t ∈ o.target, t.Silent := by
    rintro _ mem
    obtain rfl := Option.some.inj (target.symm.trans mem)
    exact silent
  have declined : o.askTarget (·.onSource source o.isFragment) = pure none :=
    askTarget_absent fun t mem => (silent t mem).onSource ..
  rw [preprocess, process, value_runOn_map declined plain, value_runOn_map declined plain]
  generalize (Include.resolve o.toSettings engine s.store source).value = outcome
  obtain ⟨failure | resolved, store⟩ := outcome
  · rfl
  refine ⟨_, rfl, fun unmarked => ?_⟩
  have unmarked : isVersion3 t s.lines.target resolved = false := by
    rcases unmarked with other | without
    · simp [isVersion3, other]
    · rw [isVersion3, without, Bool.and_false]
  exact value_convertStage_silent target silent kept needed unmarked

/-- A block, and behind it the end of another one that was never opened, under a target with words
and patterns of its own. -/
theorem process_eq_preprocess_stray :
    let t : Target Unit := {
      varyingVertexKeyword := fun _ => "in".toList
      blockLines := fun _ => some (·.contains '{') }
    let engine : Engine := {
      load := Engine.loadFrom [] "missing".toList
      globals := Engine.fixedGlobals [("HOST".toList, "1".toList)]
      finite := Engine.loadFrom_finite [] "missing".toList }
    let o : Options Unit := { target := some t }
    let s : Session Unit := { lines := { target := () } }
    let source := "#ifdef HOST\nin vec3 a; \n#endif\n#endif\nrest".toList
    let code := "in vec3 a;\r\n".toList
    t.Silent ∧ (o.preprocess (some engine) source s).value.1 = .ok ⟨code, source⟩ ∧
      (o.process (some engine) source s).value.1 =
        .ok ⟨"precision mediump float;\r\n".toList ++ code, source⟩ := by
  intro t engine o s source code
  have silent : t.Silent := by constructor <;> intros <;> rfl
  have resolved : (Include.resolve o.toSettings (some engine) s.store source).value =
      (.ok source, s.store) := Include.value_resolveWithin_complete _ rfl
  have converted : (o.convert (some engine) source s).value.1 = code := by decide +kernel
  have preprocessed : (o.preprocess (some engine) source s).value.1 = .ok ⟨code, source⟩ := by
    rw [preprocess, value_runOn rfl rfl resolved, converted]
  refine ⟨silent, preprocessed, ?_⟩
  have kept : (some engine).bind (·.inlining) = none := rfl
  have alike := process_eq_preprocess (o := o) rfl silent s rfl rfl kept source
  rw [preprocessed] at alike
  obtain ⟨code', processed, same⟩ := alike
  rw [processed, (same (.inr (by decide))).1 (by decide)]
  rfl

end Options
end ShaderPrep
