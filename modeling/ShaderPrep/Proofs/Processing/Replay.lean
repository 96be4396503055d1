import ShaderPrep.Proofs.Conditional.Evaluation
import ShaderPrep.Proofs.Conditional.Reading
import ShaderPrep.Proofs.Processing.Uses
import ShaderPrep.Proofs.Target.Memoryless

/-! Runs after other runs. Of a session only the store and the open uniform block can matter to a
target without memory, and no uniform block is open where conditionals begin; so a run on a used
session is a run on a new one with the same store. -/
namespace ShaderPrep

namespace Session
variable {σ α β : Type}

/-- Sessions with the same store and, if `block` is set, with the same uniform block open. -/
def Agree (block : Bool) (s s' : Session σ) : Prop :=
  s.store = s'.store ∧ (block = true → s.lines.inBlock = s'.lines.inBlock)

/-- From sessions that agree, both come to the same result by the same events, and to sessions that
agree. -/
def Tracks (before after : Bool) (x y : Run σ α) : Prop :=
  ∀ s s', Agree before s s' → (x s).value.1 = (y s').value.1 ∧ (x s).events = (y s').events ∧
    Agree after (x s).value.2 (y s').value.2

theorem events_bind (x : Run σ α) (f : α → Run σ β) (s : Session σ) :
    ((x >>= f) s).events = (x s).events ++ (f (x s).value.1 (x s).value.2).events :=
  Traced.events_bind (x s) fun p => f p.1 p.2

namespace Tracks
variable {before between after : Bool}

theorem bind {x y : Run σ α} {f g : α → Run σ β} (first : Tracks before between x y)
    (next : ∀ a, Tracks between after (f a) (g a)) : Tracks before after (x >>= f) (y >>= g) := by
  intro s s' agree
  obtain ⟨value, events, left⟩ := first s s' agree
  obtain ⟨value', events', left'⟩ := next (x s).value.1 _ _ left
  rw [events_bind, events_bind, events]
  rw [value] at value' events' left'
  change (f (x s).value.1 (x s).value.2).value.1 = _ ∧ _ = _ ∧
    Agree after (f (x s).value.1 (x s).value.2).value.2 _
  rw [value]
  exact ⟨value', congrArg _ events', left'⟩

theorem pure (a : α) : Tracks before before (Pure.pure a : Run σ α) (Pure.pure a) :=
  fun _ _ agree => ⟨rfl, rfl, agree⟩

theorem note (x : Traced α) : Tracks before before (x : Run σ α) (x : Run σ α) :=
  fun _ _ agree => ⟨rfl, rfl, agree⟩

theorem get {f g : Session σ → Run σ α}
    (next : ∀ s s', Agree before s s' → Tracks before after (f s) (g s')) :
    Tracks before after (MonadState.get >>= f) (MonadState.get >>= g) :=
  fun s s' agree => next s s' agree s s' agree

theorem forget {x y : Run σ α} (h : Tracks before true x y) : Tracks before false x y := by
  intro s s' agree
  obtain ⟨value, events, left⟩ := h s s' agree
  exact ⟨value, events, left.1, nofun⟩

end Tracks
end Session

open Session (Agree Tracks)

namespace Options
variable {σ : Type} {o : Options σ}

/-- The target, if there is one, has no memory. -/
def Memoryless (o : Options σ) : Prop := ∀ t ∈ o.target, t.Memoryless

variable (engine : Option Engine) (source : Text)

theorem symbols_congr (fixed : o.Memoryless) (state state' : σ) :
    o.symbols engine state = o.symbols engine state' := by
  have language : o.language? state = o.language? state' := by
    unfold language?
    cases target : o.target with
    | none => rfl
    | some t => exact congrArg some ((fixed t target).language state state')
  simp only [Options.symbols, language]

theorem tracks_askTarget {before : Bool} {hook : Target σ → Hook σ α}
    (fixed : ∀ t ∈ o.target, (hook t).Fixed) :
    Tracks before before (o.askTarget hook) (o.askTarget hook) := by
  unfold askTarget
  cases target : o.target with
  | none => exact .pure none
  | some t =>
    exact fun s s' agree => ⟨fixed t target s.lines.target s'.lines.target, rfl, agree⟩

theorem tracks_resolveStored :
    Tracks false false (o.resolveStored engine source) (o.resolveStored engine source) := by
  refine .get fun s s' agree => ?_
  rw [agree.1]
  refine .bind (.note _) fun result => ?_
  exact fun s s' _ => ⟨rfl, rfl, rfl, nofun⟩

theorem tracks_withIncludes (fixed : o.Memoryless) :
    Tracks false false (o.withIncludes engine source) (o.withIncludes engine source) := by
  refine .bind (tracks_askTarget fun t mem => (fixed t mem).onSource source o.isFragment) ?_
  intro edited
  refine .bind (.note _) fun _ => ?_
  exact .bind (tracks_resolveStored engine _) fun resolved => .pure _

/-- What two machines have in common that read the same lines under a target without memory. -/
private def Matched (m m' : Tree.Machine (LineState σ)) : Prop :=
  m.output = m'.output ∧ m.state.symbols = m'.state.symbols ∧
    m.state.lines.inBlock = m'.state.lines.inBlock

private theorem joint_matched (fixed : o.Memoryless) (line : Text) :
    Tree.Reading.Joint Matched (Target.lineEdit o.target o.isFragment)
      (Target.lineEdit o.target o.isFragment) line where
  guards := by
    rintro m m' ⟨-, symbols, -⟩ guard -
    rw [symbols]
  puts := by
    rintro m m' - ⟨output, symbols, block⟩ active active'
    obtain ⟨text, left⟩ :=
      Target.lineEdit_parallel o.isFragment m'.state.symbols line fixed m.state.lines
        m'.state.lines block
    simp only [Matched, Tree.Machine.emit, active, active', if_true, symbols, output, text,
      true_and]
    cases (if Text.begins "#d".toList line then Tree.LineDefine.ofLine? line else none) with
    | none => exact ⟨rfl, left⟩
    | some define => exact ⟨rfl, left⟩

theorem tracks_evaluate (fixed : o.Memoryless) (symbols : Symbols) :
    Tracks true true (o.evaluate source symbols) (o.evaluate source symbols) := by
  intro s s' ⟨store, block⟩
  have start : Tree.Reading.Alike Matched { machine := { state := ⟨symbols, s.lines⟩ } }
      { machine := { state := ⟨symbols, s'.lines⟩ } } :=
    ⟨rfl, rfl, rfl, rfl, rfl, rfl, block rfl⟩
  have alike : Tree.Reading.Alike Matched
      (Tree.Reading.run (Target.lineEdit o.target o.isFragment) (Line.split source)
        ⟨symbols, s.lines⟩)
      (Tree.Reading.run (Target.lineEdit o.target o.isFragment) (Line.split source)
        ⟨symbols, s'.lines⟩) :=
    start.foldl (fun _ _ related => related) fun line _ => joint_matched fixed line
  obtain ⟨output, final, left⟩ := alike.related
  rw [value_evaluate, value_evaluate, Tree.render_ofSource_eq_reading,
    Tree.render_ofSource_eq_reading]
  exact ⟨Prod.ext output final, rfl, store, fun _ => left⟩

/-- Whatever block was open before, none is where conditionals begin. -/
theorem tracks_convert (fixed : o.Memoryless) :
    Tracks false false (o.convert engine source) (o.convert engine source) := by
  refine .get fun s s' _ => ?_
  rw [symbols_congr engine fixed s.lines.target s'.lines.target]
  refine .bind (tracks_askTarget fun t mem =>
    (fixed t mem).beforeConditionals source o.defines _ o.isFragment) fun edited => ?_
  have closed : Tracks (σ := σ) false true
      (modify fun s => { s with lines := { s.lines with inBlock := false } })
      (modify fun s => { s with lines := { s.lines with inBlock := false } }) :=
    fun _ _ agree => ⟨rfl, rfl, agree.1, fun _ => rfl⟩
  refine .bind closed fun _ => ?_
  refine .forget (.bind (tracks_evaluate _ fixed _) fun code => ?_)
  refine .bind (tracks_askTarget fun t mem =>
    (fixed t mem).afterConditionals code.1 o.defines o.isFragment engine) fun edited => ?_
  cases engine.bind (·.inlining) with
  | none => exact .pure _
  | some inlined => exact .pure _

theorem withPrecision_congr (fixed : o.Memoryless) (state state' : σ) :
    o.withPrecision state source = o.withPrecision state' source := by
  have skips : o.target.any (·.skipsPrecision state) = o.target.any (·.skipsPrecision state') := by
    cases target : o.target with
    | none => rfl
    | some t => exact (fixed t target).skipsPrecision state state'
  rw [withPrecision, withPrecision, skips]

theorem tracks_convertStage (fixed : o.Memoryless) :
    Tracks false false (o.convertStage engine source) (o.convertStage engine source) := by
  refine .get fun s s' _ => ?_
  dsimp only
  rw [withPrecision_congr source fixed s.lines.target s'.lines.target]
  cases target : o.target with
  | none => exact .pure _
  | some t =>
    have version : isVersion3 t s.lines.target = isVersion3 t s'.lines.target := by
      funext code
      rw [isVersion3, isVersion3, (fixed t target).language s.lines.target s'.lines.target]
    dsimp only
    rw [version, (fixed t target).convertsVersion3 s.lines.target s'.lines.target]
    split
    · split
      · exact tracks_convert engine _ fixed
      · exact .bind (.note _) fun _ => .pure _
    · exact tracks_convert engine _ fixed

theorem tracks_runOn (fixed : o.Memoryless) {work : Text → Run σ Text}
    (tracks : ∀ code, Tracks false false (work code) (work code)) :
    Tracks false false (o.runOn engine source work) (o.runOn engine source work) := by
  refine .bind (tracks_withIncludes engine source fixed) fun result => ?_
  cases result with
  | error failure => exact .pure _
  | ok code => exact .bind (tracks code) fun _ => .pure _

end Options

/-- What may be done with a session, each time with an engine of its own. -/
inductive Call where
  | setUp
  | process (engine : Option Engine) (source : Text)
  | preprocess (engine : Option Engine) (source : Text)
  | finish (vertex fragment : Text)
  | evaluate (source : Text) (symbols : Symbols)

namespace Call
variable {σ : Type}

/-- The session that a call leaves, whether it succeeds or fails. -/
def after (o : Options σ) (call : Call) (s : Session σ) : Session σ :=
  match call with
  | setUp => (o.setUp s).value.2
  | process engine source => (o.process engine source s).value.2
  | preprocess engine source => (o.preprocess engine source s).value.2
  | finish vertex fragment => (o.finish vertex fragment s).value.2
  | evaluate source symbols => (o.evaluate source symbols s).value.2

/-- The session that a list of calls leaves, first to last. -/
def afterAll (o : Options σ) (calls : List Call) (s : Session σ) : Session σ :=
  calls.foldl (fun s call => call.after o s) s

end Call

/-- After any calls, processing and preprocessing give what they give on a new session with the
store of the moment: the same codes or failure, by the same events, and the same store again. -/
theorem Options.run_after_calls {σ : Type} (o : Options σ) (fixed : o.Memoryless)
    (calls : List Call) (start : Session σ) (engine : Option Engine) (source : Text)
    (lines : LineState σ) :
    let used := Call.afterAll o calls start
    let new : Session σ := { store := used.store, lines }
    ((o.process engine source used).value.1 = (o.process engine source new).value.1 ∧
      (o.process engine source used).events = (o.process engine source new).events ∧
      (o.process engine source used).value.2.store =
        (o.process engine source new).value.2.store) ∧
    (o.preprocess engine source used).value.1 = (o.preprocess engine source new).value.1 ∧
      (o.preprocess engine source used).events = (o.preprocess engine source new).events ∧
      (o.preprocess engine source used).value.2.store =
        (o.preprocess engine source new).value.2.store := by
  intro used new
  have agree : Agree false used new := ⟨rfl, nofun⟩
  obtain ⟨value, events, store, -⟩ := Options.tracks_runOn engine source fixed
    (fun code => Options.tracks_convertStage engine code fixed) used new agree
  obtain ⟨value', events', store', -⟩ := Options.tracks_runOn engine source fixed
    (fun code => Options.tracks_convert engine code fixed) used new agree
  exact ⟨⟨value, events, store⟩, value', events', store'⟩

/-- A call that leaves a uniform block open, and a run behind it that is to find none. -/
theorem Options.run_after_calls_open_block :
    let t : Target Unit := {
      onUniform := fun line _ _ => (some ("U:".toList ++ line), ·)
      onBlockStart := fun line _ => (some ("B:".toList ++ line), ·) }
    let o : Options Unit := { target := some t }
    let start : Session Unit := { lines := { target := () } }
    let calls := [Call.evaluate "uniform Scene \x7b".toList ∅]
    let used := Call.afterAll o calls start
    let source := "uniform float a;".toList
    o.Memoryless ∧ used.lines.inBlock = true ∧
      (o.preprocess none source used).value.1 =
        (o.preprocess none source { store := used.store, lines := start.lines }).value.1 := by
  intro t o start calls used source
  have fixed : o.Memoryless := fun t _ => t.memoryless_of_subsingleton
  have opened : used.lines.inBlock = true := by decide +kernel
  refine ⟨fixed, opened, ?_⟩
  clear_value o start
  exact (Options.run_after_calls o fixed calls start none source start.lines).2.1

end ShaderPrep
