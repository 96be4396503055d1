import Mathlib.Data.List.ModifyLast
import ShaderPrep.Target.Line

/-! Targets that are watched. What happens at the hooks of a line is noted beside the state of the
target, and nothing else about the target changes. So the notes tell the lines that go through the
hooks, with the calls of hooks for uniforms and their blocks that each of them makes. -/
namespace ShaderPrep

/-- A call of a hook for uniforms or for their blocks. -/
inductive HookCall where
  | uniform
  /-- The hook that sees the start of a block; one opens if the hook answers. -/
  | blockStart (answered : Bool)
  | blockEnd
  deriving DecidableEq, Repr

/-- What is noted at each line and at each call. -/
structure Notes (τ : Type) where
  line : Text → τ → τ
  call : HookCall → τ → τ

/-- The hook beside notes, which it may add to in view of its answer. -/
def Hook.watched (hook : Hook σ α) (note : Option α → τ → τ) : Hook (σ × τ) α :=
  fun (state, noted) => ((hook state).1, ((hook state).2, note (hook state).1 noted))

def LineState.watched (s : LineState σ) (noted : τ) : LineState (σ × τ) :=
  ⟨(s.target, noted), s.inBlock⟩

/-- A line that went through the hooks, with its calls in order. -/
structure Visit where
  line : Text
  calls : List HookCall := []
  deriving DecidableEq, Repr

/-- A call on the line that is visited last. -/
def called (call : HookCall) : List Visit → List Visit :=
  List.modifyLast fun v => { v with calls := v.calls ++ [call] }

theorem foldl_called (calls : List HookCall) (visits : List Visit) (line : Text)
    (before : List HookCall) :
    calls.foldl (fun visits call => called call visits) (visits ++ [⟨line, before⟩]) =
      visits ++ [⟨line, before ++ calls⟩] := by
  induction calls generalizing before with
  | nil => rw [List.append_nil, List.foldl_nil]
  | cons call calls ih =>
    rw [List.foldl_cons, called, List.modifyLast_concat, ih, List.append_assoc,
      List.singleton_append]

namespace Target

/-- The target with notes of its lines and calls. -/
def annotated (t : Target σ) (notes : Notes τ) : Target (σ × τ) where
  language state := t.language state.1
  skipsPrecision state := t.skipsPrecision state.1
  convertsVersion3 state := t.convertsVersion3 state.1
  attributeKeyword state := t.attributeKeyword state.1
  varyingVertexKeyword state := t.varyingVertexKeyword state.1
  varyingFragmentKeyword state := t.varyingFragmentKeyword state.1
  uniformLines state := t.uniformLines state.1
  blockLines state := t.blockLines state.1
  textureLines state := t.textureLines state.1
  isVarying line isFragment state := t.isVarying line isFragment state.1
  setUp state := (t.setUp state.1, state.2)
  onSource source isFragment := (t.onSource source isFragment).watched fun _ => id
  onLine line isFragment := (t.onLine line isFragment).watched fun _ => notes.line line
  onAttribute line symbols := (t.onAttribute line symbols).watched fun _ => id
  onVarying line isFragment symbols := (t.onVarying line isFragment symbols).watched fun _ => id
  onUniform line isFragment symbols :=
    (t.onUniform line isFragment symbols).watched fun _ => notes.call .uniform
  onBlockStart line isFragment :=
    (t.onBlockStart line isFragment).watched fun answer => notes.call (.blockStart answer.isSome)
  onBlockEnd line isFragment :=
    (t.onBlockEnd line isFragment).watched fun _ => notes.call .blockEnd
  onTexture line isFragment symbols := (t.onTexture line isFragment symbols).watched fun _ => id
  beforeConditionals source defines symbols isFragment :=
    (t.beforeConditionals source defines symbols isFragment).watched fun _ => id
  afterConditionals source defines isFragment engine :=
    (t.afterConditionals source defines isFragment engine).watched fun _ => id
  onFinish vertex fragment := (t.onFinish vertex fragment).watched fun _ => id

/-- The target with the visits of lines so far, the latest last. -/
def watching (t : Target σ) : Target (σ × List Visit) :=
  t.annotated ⟨fun line visits => visits ++ [⟨line, []⟩], called⟩

section Calls
variable (t : Target σ) (isFragment : Bool) (symbols : Symbols) (line : Text)

/-- The calls for what a line declares. -/
def declarationCalls (declared : Declaration) (s : LineState σ) : List HookCall :=
  match declared with
  | .uniform => if s.inBlock then [] else [.uniform]
  | .block =>
    if s.inBlock then [] else [.blockStart (t.onBlockStart line isFragment s.target).1.isSome]
  | .texture | .other => []

/-- The call for the end of a block. -/
def closingCalls (s : LineState σ) : List HookCall :=
  if s.inBlock && line.contains '}' then [.blockEnd] else []

/-- The calls of a line that declares something, once its attribute or varying hook has answered. -/
def callsBehind (declared : Declaration) (interface : Option Text) (s : LineState σ) :
    List HookCall :=
  if interface.isSome then closingCalls line s
  else t.declarationCalls isFragment line declared s ++
    closingCalls line (t.editDeclaration isFragment symbols line declared s).2

/-- The calls for a line, in order. -/
def lineCalls (s : LineState σ) : List HookCall :=
  let s := (ask (t.onLine line isFragment) s).2
  let (interface, s') := t.editInterface isFragment symbols line s
  t.callsBehind isFragment symbols line (t.declaration line s.target) interface s'

end Calls

/-- The first work does what the second does, and notes the calls that it makes. -/
def Watches (notes : Notes τ) (x' : StateM (LineState (σ × τ)) α) (x : StateM (LineState σ) α)
    (calls : LineState σ → List HookCall) : Prop :=
  ∀ s noted, x' (s.watched noted) =
    ((x s).1, (x s).2.watched ((calls s).foldl (fun noted call => notes.call call noted) noted))

namespace Watches
variable {notes : Notes τ}

theorem bind {x' : StateM (LineState (σ × τ)) α} {x : StateM (LineState σ) α}
    {f' : α → StateM (LineState (σ × τ)) β} {f : α → StateM (LineState σ) β}
    {calls : LineState σ → List HookCall} (more : α → LineState σ → List HookCall)
    (first : Watches notes x' x calls) (next : ∀ a, Watches notes (f' a) (f a) (more a)) :
    Watches notes (x' >>= f') (x >>= f) fun s => calls s ++ more (x s).1 (x s).2 := by
  intro s noted
  change f' (x' (s.watched noted)).1 (x' (s.watched noted)).2 = _
  rw [first, next, List.foldl_append]
  rfl

theorem pure (a : α) : Watches (σ := σ) notes (pure a) (pure a) fun _ => [] := fun _ _ => rfl

theorem get {f' : LineState (σ × τ) → StateM (LineState (σ × τ)) α}
    {f : LineState σ → StateM (LineState σ) α} (calls : LineState σ → LineState σ → List HookCall)
    (next : ∀ s noted, Watches notes (f' (s.watched noted)) (f s) (calls s)) :
    Watches notes (MonadState.get >>= f') (MonadState.get >>= f) fun s => calls s s :=
  fun s noted => next s noted s noted

theorem setInBlock (inBlock : Bool) :
    Watches (σ := σ) notes (modify fun s => { s with inBlock })
      (modify fun s => { s with inBlock }) fun _ => [] :=
  fun _ _ => rfl

/-- A hook of which nothing is noted. -/
theorem ask (hook : Hook σ α) :
    Watches notes (Target.ask (hook.watched fun _ => id)) (Target.ask hook) fun _ => [] :=
  fun _ _ => rfl

theorem askCalled (hook : Hook σ α) (call : Option α → HookCall) :
    Watches notes (Target.ask (hook.watched fun answer => notes.call (call answer)))
      (Target.ask hook) fun s => [call (hook s.target).1] :=
  fun _ _ => rfl

end Watches

section Lines
variable (t : Target σ) (notes : Notes τ) (isFragment : Bool) (symbols : Symbols) (line : Text)

theorem editInterface_watches :
    Watches notes ((t.annotated notes).editInterface isFragment symbols line)
      (t.editInterface isFragment symbols line) fun _ => [] := by
  refine .get (fun _ _ => []) fun s noted => ?_
  have varying (answer : Option Text) :
      Watches notes
        (if answer.isNone && t.declaresVarying isFragment line s.target then
          ask ((t.annotated notes).onVarying line isFragment symbols) else pure answer)
        (if answer.isNone && t.declaresVarying isFragment line s.target then
          ask (t.onVarying line isFragment symbols) else pure answer) fun _ => [] := by
    split
    · exact .ask _
    · exact .pure _
  dsimp only
  change Watches notes
    (if !isFragment && Text.begins (t.attributeKeyword s.target) line then _ else _) _ _
  split
  · exact .bind (fun _ _ => []) (.ask _) varying
  · exact .bind (fun _ _ => []) (.pure _) varying

theorem editDeclaration_watches (declared : Declaration) :
    Watches notes ((t.annotated notes).editDeclaration isFragment symbols line declared)
      (t.editDeclaration isFragment symbols line declared)
      (t.declarationCalls isFragment line declared) := by
  cases declared with
  | uniform =>
    refine .get (fun s _ => if s.inBlock then [] else [.uniform]) fun s noted => ?_
    change Watches notes (if s.inBlock then _ else _) _ _
    split
    · exact .pure _
    · exact .askCalled _ fun _ => .uniform
  | block =>
    refine .get (fun s s' => if s.inBlock then [] else
      [.blockStart (t.onBlockStart line isFragment s'.target).1.isSome]) fun s noted => ?_
    change Watches notes (if s.inBlock then _ else _) _ _
    split
    · exact .pure _
    · exact .bind (fun _ _ => []) (.askCalled _ fun answer => .blockStart answer.isSome)
        fun answer => .bind (fun _ _ => []) (.setInBlock _) fun _ => .pure _
  | texture => exact .ask _
  | other => exact .pure _

theorem closeBlock_watches :
    Watches notes ((t.annotated notes).closeBlock isFragment line) (t.closeBlock isFragment line)
      (closingCalls line) := by
  refine .get (fun s _ => if s.inBlock && line.contains '}' then [.blockEnd] else [])
    fun s noted => ?_
  change Watches notes (if s.inBlock && line.contains '}' then _ else _) _ _
  split
  · exact .bind (fun _ _ => [.blockEnd]) (.setInBlock _) fun _ => .askCalled _ fun _ => .blockEnd
  · exact .pure _

theorem onLine_annotated {f' : Option Text → StateM (LineState (σ × τ)) α}
    {f : Option Text → StateM (LineState σ) α} (calls : LineState σ → List HookCall)
    (next : ∀ answer, Watches notes (f' answer) (f answer) calls) (s : LineState σ) (noted : τ) :
    (ask ((t.annotated notes).onLine line isFragment) >>= f') (s.watched noted) =
      (((ask (t.onLine line isFragment) >>= f) s).1,
        ((ask (t.onLine line isFragment) >>= f) s).2.watched
          ((calls (ask (t.onLine line isFragment) s).2).foldl
            (fun noted call => notes.call call noted) (notes.line line noted))) :=
  next _ { s with target := (t.onLine line isFragment s.target).2 } (notes.line line noted)

/-- A watched line is edited as it is without that; the line is noted once, then its calls. -/
theorem editLine_annotated (s : LineState σ) (noted : τ) :
    (t.annotated notes).editLine isFragment symbols line (s.watched noted) =
      ((t.editLine isFragment symbols line s).1,
        (t.editLine isFragment symbols line s).2.watched
          ((t.lineCalls isFragment symbols line s).foldl
            (fun noted call => notes.call call noted) (notes.line line noted))) := by
  let behind (s s' : LineState σ) : List HookCall :=
    let (interface, s'') := t.editInterface isFragment symbols line s'
    t.callsBehind isFragment symbols line (t.declaration line s.target) interface s''
  refine t.onLine_annotated notes isFragment line (fun s => behind s s)
    (fun first => .get behind fun s noted => ?_) s noted
  have closing (answer : Option Text) :
      Watches notes
        (do
          let last ← (t.annotated notes).closeBlock isFragment line
          return last.getD (answer.getD (first.getD line)))
        (do
          let last ← t.closeBlock isFragment line
          return last.getD (answer.getD (first.getD line)))
        fun s => closingCalls line s ++ [] :=
    .bind (fun _ _ => []) (closeBlock_watches t notes isFragment line) fun _ => .pure _
  simp only [List.append_nil] at closing
  refine .bind (t.callsBehind isFragment symbols line (t.declaration line s.target))
    (editInterface_watches t notes isFragment symbols line) fun interface => ?_
  cases interface with
  | none => exact .bind _ (editDeclaration_watches t notes isFragment symbols line _) closing
  | some text => exact .bind _ (.pure _) closing

theorem editLine_watching (s : LineState σ) (visits : List Visit) :
    t.watching.editLine isFragment symbols line (s.watched visits) =
      ((t.editLine isFragment symbols line s).1,
        (t.editLine isFragment symbols line s).2.watched
          (visits ++ [⟨line, t.lineCalls isFragment symbols line s⟩])) := by
  rw [watching, editLine_annotated, foldl_called, List.nil_append]

end Lines
end Target
end ShaderPrep
