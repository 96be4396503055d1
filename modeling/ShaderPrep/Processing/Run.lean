import ShaderPrep.Include.Resolve
import ShaderPrep.Options
import ShaderPrep.Target.Line
import ShaderPrep.Tree.Build

/-!
The runs over a source. Processing converts a stage for good; preprocessing leaves precision and
sources of the third version alone and serves sources that are worked on further. A session is what
lasts from one run to the next.
-/
namespace ShaderPrep

/-- The store, and the state that editing lines leaves. -/
structure Session (σ : Type) where
  store : Store := {}
  lines : LineState σ

/-- Work within a session, with the events it causes. -/
abbrev Run (σ : Type) := StateT (Session σ) Traced

/-- Lets a hook of the target work on its state. -/
def Session.ask (hook : Hook σ α) : Run σ (Option α) := fun s =>
  let (answer, target) := hook s.lines.target
  pure (answer, { s with lines := { s.lines with target } })

structure Processed where
  code : Text
  /-- The source right after its includes were resolved. -/
  codeWithIncludes : Text
  deriving DecidableEq, Repr

namespace Options

/-- Sets the target up before an effect. -/
def setUp (o : Options σ) : Run σ Unit :=
  match o.target with
  | none => pure ()
  | some t => modify fun s => { s with lines := { s.lines with target := t.setUp s.lines.target } }

/-- Asks the target, if there is one. -/
def askTarget (o : Options σ) (hook : Target σ → Hook σ α) : Run σ (Option α) :=
  match o.target with
  | none => pure none
  | some t => Session.ask (hook t)

/-- Resolves includes with the store of the session. -/
def resolveStored (o : Options σ) (engine : Option Engine) (source : Text) :
    Run σ (Except Failure Text) := do
  let s ← get
  let (result, store) ← (Include.resolve o.toSettings engine s.store source : Traced _)
  set { s with store }
  return result

/-- The source with its includes, and the hooks before and after. -/
def withIncludes (o : Options σ) (engine : Option Engine) (source : Text) :
    Run σ (Except Failure Text) := do
  let edited ← o.askTarget (·.onSource source o.isFragment)
  Traced.debug ("resolving includes (".toList ++ o.stage.name ++ " stage)".toList)
  let resolved ← o.resolveStored engine (edited.getD source)
  return resolved.map fun code =>
    match o.afterIncludes with
    | none => code
    | some hook => hook o.stage code o.defines

/-- Renders a tree, with the state of lines that the session has. -/
def render (o : Options σ) (root : Tree.Node) (symbols : Symbols) : Run σ (Text × Symbols) := do
  let s ← get
  let (code, rendered) := root.render (Target.lineEdit o.target o.isFragment) ⟨symbols, s.lines⟩
  set { s with lines := rendered.lines }
  return (code, rendered.symbols)

/-- Evaluates the conditionals of a source. -/
def evaluate (o : Options σ) (source : Text) (symbols : Symbols) : Run σ (Text × Symbols) := do
  let root ← (Tree.ofSource source : Traced _)
  o.render root symbols

/-- Evaluates the conditionals of a source between the hooks around that. No uniform block is open
at its start. -/
def convert (o : Options σ) (engine : Option Engine) (source : Text) : Run σ Text := do
  let symbols := o.symbols engine (← get).lines.target
  let edited ← o.askTarget (·.beforeConditionals source o.defines symbols o.isFragment)
  modify fun s => { s with lines := { s.lines with inBlock := false } }
  let (code, _) ← o.evaluate (edited.getD source) symbols
  let edited ← o.askTarget (·.afterConditionals code o.defines o.isFragment engine)
  let code := edited.getD code
  match engine.bind (·.inlining) with
  | none => return code
  | some inlined => return inlined code o.isFragment

/-- Whether a source is marked for the third version of a language that marks it so. -/
def isVersion3 (t : Target σ) (state : σ) (source : Text) : Bool :=
  t.language state = .glsl && Text.occurs "#version 3".toList source

/-- The conversion of a stage. Without a target only the precision is seen to; a source of the
third version loses its mark, and that is all unless the target converts such sources too. -/
def convertStage (o : Options σ) (engine : Option Engine) (source : Text) : Run σ Text := do
  let state := (← get).lines.target
  let code := o.withPrecision state source
  match o.target with
  | none => return code
  | some t =>
    if isVersion3 t state code then
      let code := Text.replaceFirst "#version 300 es".toList [] code
      if t.convertsVersion3 state then o.convert engine code
      else
        Traced.debug "source already targets GLSL ES 3, skipping conversion".toList
        return code
    else o.convert engine code

/-- A run of `work` on the source with its includes. -/
def runOn (o : Options σ) (engine : Option Engine) (source : Text) (work : Text → Run σ Text) :
    Run σ (Except Failure Processed) := do
  match ← o.withIncludes engine source with
  | .error failure => return .error failure
  | .ok codeWithIncludes => return .ok ⟨← work codeWithIncludes, codeWithIncludes⟩

def process (o : Options σ) (engine : Option Engine) (source : Text) :
    Run σ (Except Failure Processed) := o.runOn engine source (o.convertStage engine)

def preprocess (o : Options σ) (engine : Option Engine) (source : Text) :
    Run σ (Except Failure Processed) := o.runOn engine source (o.convert engine)

/-- Both stages after the target has seen them together. -/
def finish (o : Options σ) (vertex fragment : Text) : Run σ (Text × Text) := do
  return (← o.askTarget (·.onFinish vertex fragment)).getD (vertex, fragment)

end Options
end ShaderPrep
