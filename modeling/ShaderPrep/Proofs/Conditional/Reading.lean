import ShaderPrep.Proofs.Conditional.Simulation

/-! Sources of any shape, read by the conditional machine. A boundary outside all blocks ends the
reading, any boundary behind a last resort closes its block, and a continuation that is not spelled
as one is passed over. What two readings share they keep as long as guards answer both alike. -/
namespace ShaderPrep.Tree

/-- How far a source has been read. -/
structure Reading (τ : Type) where
  machine : Machine τ
  /-- Which open blocks are in their last resort, innermost first. -/
  resorts : List Bool := []
  /-- Whether a boundary was met outside all blocks; nothing is read behind it. -/
  ended : Bool := false

namespace Reading

def openBlock (guard : Guard) (r : Reading τ) : Reading τ :=
  { r with machine := r.machine.openBlock guard, resorts := false :: r.resorts }

def closeBlock (r : Reading τ) : Reading τ :=
  { r with machine := r.machine.closeBlock, resorts := r.resorts.tail }

def nextBranch (guard : Option Guard) (r : Reading τ) : Reading τ :=
  { r with machine := r.machine.nextBranch guard, resorts := guard.isNone :: r.resorts.tail }

/-- A boundary inside a block; `resort` says whether this is in its last resort. -/
def continueBlock (resort : Bool) (line : Text) (r : Reading τ) : Reading τ :=
  if resort then r.closeBlock
  else
    match Continuation.ofLine line with
    | .otherwise => r.nextBranch none
    | .elseIf => r.nextBranch (some (guardOfLine line 5).value)
    | .none => r

def read (edit : LineEdit τ) (r : Reading τ) (line : Text) : Reading τ :=
  if r.ended then r
  else
    match Keyword.first? line, r.resorts with
    | none, _ => { r with machine := r.machine.emit edit line }
    | some .ifdef, _ => r.openBlock (guardOfLine line 6).value
    | some .ifndef, _ => r.openBlock (guardOfLine line 7).value
    | some .opening, _ => r.openBlock (guardOfLine line 3).value
    | some .endif, _ :: _ => r.closeBlock
    | some .otherwise, resort :: _ => r.continueBlock resort line
    | some .elseIf, resort :: _ => r.continueBlock resort line
    | some _, [] => { r with ended := true }

/-- All lines, from the state that symbols and edits start in. -/
def run (edit : LineEdit τ) (lines : List Text) (start : RenderState τ) : Reading τ :=
  lines.foldl (read edit) { machine := { state := start } }

theorem run_append (edit : LineEdit τ) (first last : List Text) (start : RenderState τ) :
    run edit (first ++ last) start = last.foldl (read edit) (run edit first start) :=
  List.foldl_append

theorem foldl_read_of_ended {r : Reading τ} (edit : LineEdit τ) (h : r.ended = true)
    (lines : List Text) : lines.foldl (read edit) r = r := by
  induction lines with
  | nil => rfl
  | cons line rest ih => rw [List.foldl_cons, read, if_pos h, ih]

end Reading

section Rendering
variable {edit : LineEdit τ} {start : RenderState τ} {b : Builder} {m : Machine τ} {line : Text}

/-- The reading at which the machine stands beside a builder. -/
def Builder.reading (b : Builder) (m : Machine τ) : Reading τ := ⟨m, b.lastResorts, false⟩

/-- A boundary inside a block keeps builder and machine together. -/
theorem Agrees.continueBlock {nodes : List Node} {block : OpenBlock} {blocks : List OpenBlock}
    (h : Agrees edit start ⟨nodes, block :: blocks⟩ m) (line : Text) :
    ∃ b' m', (Builder.continueBlock ⟨nodes, block :: blocks⟩ block line).value = b' ∧
      (Builder.reading ⟨nodes, block :: blocks⟩ m).continueBlock block.guard.isNone line =
        b'.reading m' ∧ Agrees edit start b' m' := by
  simp only [Builder.continueBlock, Reading.continueBlock]
  cases resort : block.guard.isNone with
  | true => exact ⟨_, _, rfl, rfl, h.enclose⟩
  | false =>
    cases Continuation.ofLine line with
    | otherwise => exact ⟨_, _, rfl, rfl, h.nextBranch none⟩
    | elseIf => exact ⟨_, _, rfl, rfl, h.nextBranch _⟩
    | none => exact ⟨_, _, rfl, rfl, h⟩

/-- One line of any source: builder and machine stay together, or reading ends for both. -/
theorem Agrees.read (h : Agrees edit start b m) (filled : line ≠ []) :
    (∃ b' m', (b.step line).value = .grown b' ∧ (b.reading m).read edit line = b'.reading m' ∧
      Agrees edit start b' m') ∨
    ∃ more, (b.step line).value = .ended more ∧
      (b.reading m).read edit line = { b.reading m with ended := true } := by
  obtain ⟨nodes, blocks⟩ := b
  simp only [Builder.step, Reading.read, Builder.reading, Bool.false_eq_true, if_false]
  cases Keyword.first? line with
  | none => exact .inl ⟨_, _, rfl, rfl, h.emit filled⟩
  | some k =>
    cases k with
    | ifdef | ifndef | opening => exact .inl ⟨_, _, rfl, rfl, h.openBlock _⟩
    | endif =>
      cases blocks with
      | nil => exact .inr ⟨false, rfl, rfl⟩
      | cons block blocks => exact .inl ⟨_, _, rfl, rfl, h.enclose⟩
    | otherwise | elseIf =>
      cases blocks with
      | nil => exact .inr ⟨true, rfl, rfl⟩
      | cons block blocks =>
        obtain ⟨b', m', grown, reads, h'⟩ := h.continueBlock line
        exact .inl ⟨b', m', congrArg Step.grown grown, reads, h'⟩

theorem Agrees.reads {lines : List Text} (h : Agrees edit start b m)
    (filled : ∀ line ∈ lines, line ≠ []) (current : Text) :
    renderNodes edit (b.run current lines).value.nodes start =
      ((lines.foldl (Reading.read edit) (b.reading m)).machine.output,
        (lines.foldl (Reading.read edit) (b.reading m)).machine.state) := by
  induction lines generalizing b m current with
  | nil => exact h.finish
  | cons line rest ih =>
    rw [List.foldl_cons, Builder.run, Traced.value_bind]
    rcases h.read (filled line List.mem_cons_self) with
      ⟨b', m', grown, reads, h'⟩ | ⟨more, ended, reads⟩
    · rw [grown, reads]
      exact ih h' (fun l mem => filled l (List.mem_cons_of_mem _ mem)) line
    · rw [ended, reads, Reading.foldl_read_of_ended edit rfl]
      exact h.finish

/-- The tree of any source renders to what the machine puts out as it reads the lines. -/
theorem render_ofSource_eq_reading (edit : LineEdit τ) (start : RenderState τ) (source : Text) :
    (ofSource source).value.render edit start =
      ((Reading.run edit (Line.split source) start).machine.output,
        (Reading.run edit (Line.split source) start).machine.state) := by
  have initial : Agrees edit start {} { state := start } := .outermost rfl
  have tree : (ofSource source).value =
      .group (Builder.run {} [] (Line.split source)).value.nodes := rfl
  rw [tree, render_group]
  exact initial.reads (fun _ => Line.ne_nil_of_mem_split) []

end Rendering

/-- The guards that a line may ask for. -/
def asked (line : Text) : List Guard :=
  match Keyword.first? line with
  | some .ifdef => [(guardOfLine line 6).value]
  | some .ifndef => [(guardOfLine line 7).value]
  | some .opening => [(guardOfLine line 3).value]
  | some .otherwise | some .elseIf =>
    if Continuation.ofLine line = .elseIf then [(guardOfLine line 5).value] else []
  | some .endif | none => []

/-- The symbol that a line defines where it is put out. -/
def defined? (line : Text) : Option LineDefine :=
  if Keyword.first? line = none ∧ Text.begins "#d".toList line = true then LineDefine.ofLine? line
  else none

namespace Reading
variable {τ' : Type} {R : Machine τ → Machine τ' → Prop} {edit : LineEdit τ} {edit' : LineEdit τ'}
  {r : Reading τ} {r' : Reading τ'}

/-- A line at which related machines do not part: its guards answer both alike, and they stay
related when both put it out. -/
structure Joint (R : Machine τ → Machine τ' → Prop) (edit : LineEdit τ) (edit' : LineEdit τ')
    (line : Text) : Prop where
  guards : R m m' → ∀ guard ∈ asked line,
    guard.holds m.state.symbols = guard.holds m'.state.symbols
  puts : Keyword.first? line = none → R m m' → m.active = true → m'.active = true →
    R (m.emit edit line) (m'.emit edit' line)

/-- Readings with the same blocks open, in the same branches, of machines that are related. -/
structure Alike (R : Machine τ → Machine τ' → Prop) (r : Reading τ) (r' : Reading τ') : Prop where
  frames : r.machine.frames = r'.machine.frames
  active : r.machine.active = r'.machine.active
  resorts : r.resorts = r'.resorts
  ended : r.ended = r'.ended
  related : R r.machine r'.machine

/-- The relation says nothing of the blocks that are open. -/
def Local (R : Machine τ → Machine τ' → Prop) : Prop :=
  ∀ {m m'} frames active, R m m' → R { m with frames, active } { m' with frames, active }

namespace Alike

theorem emit (joint : Joint R edit edit' line) (free : Keyword.first? line = none)
    (h : Alike R r r') :
    Alike R { r with machine := r.machine.emit edit line }
      { r' with machine := r'.machine.emit edit' line } := by
  obtain ⟨⟨frames, active, output, edited, state⟩, resorts, ended⟩ := r
  obtain ⟨⟨frames', active', output', edited', state'⟩, resorts', ended'⟩ := r'
  obtain ⟨rfl, rfl, rfl, rfl, related⟩ := h
  cases active with
  | false => exact ⟨rfl, rfl, rfl, rfl, related⟩
  | true => exact ⟨rfl, rfl, rfl, rfl, joint.puts free related rfl rfl⟩

theorem openBlock (isLocal : Local R) {guard : Guard} (h : Alike R r r')
    (same : guard.holds r.machine.state.symbols = guard.holds r'.machine.state.symbols) :
    Alike R (r.openBlock guard) (r'.openBlock guard) := by
  obtain ⟨⟨frames, active, output, edited, state⟩, resorts, ended⟩ := r
  obtain ⟨⟨frames', active', output', edited', state'⟩, resorts', ended'⟩ := r'
  obtain ⟨rfl, rfl, rfl, rfl, related⟩ := h
  refine ⟨?_, ?_, rfl, rfl, ?_⟩
  · simp only [Reading.openBlock, Machine.openBlock, same]
  · simp only [Reading.openBlock, Machine.openBlock, same]
  · simp only [Reading.openBlock, Machine.openBlock, same]
    exact isLocal _ _ related

theorem closeBlock (isLocal : Local R) (h : Alike R r r') :
    Alike R r.closeBlock r'.closeBlock := by
  obtain ⟨⟨frames, active, output, edited, state⟩, resorts, ended⟩ := r
  obtain ⟨⟨frames', active', output', edited', state'⟩, resorts', ended'⟩ := r'
  obtain ⟨rfl, rfl, rfl, rfl, related⟩ := h
  cases frames with
  | nil => exact ⟨rfl, rfl, rfl, rfl, related⟩
  | cons frame outer => exact ⟨rfl, rfl, rfl, rfl, isLocal outer frame.parent related⟩

theorem nextBranch (isLocal : Local R) {guard : Option Guard} (h : Alike R r r')
    (same : guard.all (·.holds r.machine.state.symbols) =
      guard.all (·.holds r'.machine.state.symbols)) :
    Alike R (r.nextBranch guard) (r'.nextBranch guard) := by
  obtain ⟨⟨frames, active, output, edited, state⟩, resorts, ended⟩ := r
  obtain ⟨⟨frames', active', output', edited', state'⟩, resorts', ended'⟩ := r'
  obtain ⟨rfl, rfl, rfl, rfl, related⟩ := h
  cases frames with
  | nil => exact ⟨rfl, rfl, rfl, rfl, related⟩
  | cons frame outer =>
    refine ⟨?_, ?_, rfl, rfl, ?_⟩
    · simp only [Reading.nextBranch, Machine.nextBranch, same]
    · simp only [Reading.nextBranch, Machine.nextBranch, same]
    · simp only [Reading.nextBranch, Machine.nextBranch, same]
      exact isLocal _ _ related

theorem continueBlock (isLocal : Local R) (resort : Bool)
    (same : Continuation.ofLine line = .elseIf →
      (guardOfLine line 5).value.holds r.machine.state.symbols =
        (guardOfLine line 5).value.holds r'.machine.state.symbols)
    (h : Alike R r r') : Alike R (r.continueBlock resort line) (r'.continueBlock resort line) := by
  simp only [Reading.continueBlock]
  split
  · exact h.closeBlock isLocal
  · cases goes : Continuation.ofLine line with
    | otherwise => exact h.nextBranch isLocal rfl
    | elseIf => exact h.nextBranch isLocal (same goes)
    | none => exact h

theorem read (isLocal : Local R) (joint : Joint R edit edit' line) (h : Alike R r r') :
    Alike R (r.read edit line) (r'.read edit' line) := by
  obtain ⟨m, resorts, ended⟩ := r
  obtain ⟨m', resorts', ended'⟩ := r'
  obtain rfl : resorts = resorts' := h.resorts
  obtain rfl : ended = ended' := h.ended
  simp only [Reading.read]
  split
  · exact h
  · have guards := joint.guards h.related
    cases word : Keyword.first? line with
    | none => exact h.emit joint word
    | some k =>
      simp only [asked, word] at guards
      cases k with
      | ifdef | ifndef | opening => exact h.openBlock isLocal (guards _ List.mem_cons_self)
      | endif =>
        cases resorts with
        | nil => exact { h with ended := rfl }
        | cons resort outer => exact h.closeBlock isLocal
      | otherwise | elseIf =>
        cases resorts with
        | nil => exact { h with ended := rfl }
        | cons resort outer =>
          refine h.continueBlock isLocal resort fun goes => guards _ ?_
          rw [if_pos goes]
          exact List.mem_cons_self

/-- Readings that are alike stay so over lines at which they do not part. -/
theorem foldl (isLocal : Local R) {lines : List Text}
    (joint : ∀ line ∈ lines, Joint R edit edit' line) (h : Alike R r r') :
    Alike R (lines.foldl (Reading.read edit) r) (lines.foldl (Reading.read edit') r') := by
  induction lines generalizing r r' with
  | nil => exact h
  | cons line rest ih =>
    exact ih (fun l mem => joint l (List.mem_cons_of_mem _ mem))
      (h.read isLocal (joint line List.mem_cons_self))

end Alike

/-- What is kept whenever a line is put out holds of the machine at the end. -/
theorem foldl_invariant {P : Machine τ → Prop} {lines : List Text}
    (isLocal : ∀ {m : Machine τ} frames active, P m → P { m with frames, active })
    (puts : ∀ line ∈ lines, ∀ m : Machine τ, Keyword.first? line = none → m.active = true →
      P m → P (m.emit edit line))
    (h : P r.machine) : P (lines.foldl (read edit) r).machine := by
  have alike : Alike (fun m m' => m = m' ∧ P m) r r := ⟨rfl, rfl, rfl, rfl, rfl, h⟩
  have own : Local fun m m' : Machine τ => m = m' ∧ P m := by
    rintro m _ frames active ⟨rfl, kept⟩
    exact ⟨rfl, isLocal frames active kept⟩
  have joint : ∀ line ∈ lines, Joint (fun m m' => m = m' ∧ P m) edit edit line := by
    refine fun line mem => ⟨?_, ?_⟩
    · rintro m _ ⟨rfl, -⟩ guard -
      rfl
    · rintro m _ free ⟨rfl, kept⟩ active -
      exact ⟨rfl, puts line mem m free active kept⟩
  exact (alike.foldl own joint).related.2

theorem emit_symbols {m : Machine τ} {line : Text} (free : Keyword.first? line = none)
    (active : m.active = true) :
    (m.emit edit line).state.symbols = (defined? line).elim m.state.symbols fun define =>
      m.state.symbols.insert define.name define.effective := by
  simp only [Machine.emit, active, if_true, defined?, free, true_and]
  cases (if Text.begins "#d".toList line = true then LineDefine.ofLine? line else none) <;> rfl

theorem emit_edited {m : Machine τ} (line : Text) (active : m.active = true) :
    (m.emit edit line).edited = m.edited ++ [line] := by
  simp only [Machine.emit, active, if_true]

theorem read_of_free {line : Text} (free : Keyword.first? line = none)
    (ended : r.ended = false) :
    r.read edit line = { r with machine := r.machine.emit edit line } := by
  simp [read, free, ended]

theorem emit_output {m : Machine τ} {line : Text}
    (keeps : ∀ symbols line state, (edit symbols line state).1 = line) (active : m.active = true) :
    (m.emit edit line).output = m.output ++ (line ++ lineEnd) := by
  simp only [Machine.emit, active, if_true, keeps]

/-- Lines that are put out as they are make up the output. -/
theorem output_eq_edited (keeps : ∀ symbols line state, (edit symbols line state).1 = line)
    (lines : List Text) (start : RenderState τ) :
    (run edit lines start).machine.output =
      (run edit lines start).machine.edited.flatMap (· ++ lineEnd) := by
  apply foldl_invariant (P := fun m => m.output = m.edited.flatMap (· ++ lineEnd))
    (fun _ _ kept => kept) _ rfl
  intro line _ m _ active kept
  rw [emit_edited line active, emit_output keeps active, List.flatMap_append, ← kept,
    List.flatMap_singleton]

end Reading
end ShaderPrep.Tree
