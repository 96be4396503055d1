import ShaderPrep.Effect.Basic
import ShaderPrep.Processing.Run

/-!
Compiling effects and compute shaders, each key once. A cached product is given out as it is; a
compilation that fails leaves the caches alone.
-/
namespace ShaderPrep

/-- What all compilations share: each starts from these options, with a target that has seen
nothing yet. -/
structure Plan (σ : Type) where
  engine : Engine
  options : Options σ
  initial : LineState σ

/-- The store and the state the last compilation left, and what is compiled already. -/
structure Compiler (σ : Type) where
  session : Session σ
  effects : Table Effect := ∅
  computes : Table ComputeShader := ∅
  /-- How many compilations were begun. -/
  builds : Nat := 0

namespace Plan

/-- The options of a compilation under `defines`. -/
def optionsFor (plan : Plan σ) (defines : List Text) : Options σ :=
  { plan.options with
    defines
    supportsUniformBuffers :=
      plan.options.supportsUniformBuffers || plan.engine.supportsUniformBuffers }

/-- The key of a stage in the store. -/
def storeKey (stage : Stage) (name : Text) : Text := name ++ stage.storeSuffix

/-- Where the source of a stage is in the repository. -/
def url (plan : Plan σ) (stage : Stage) (name : Text) : Text :=
  plan.options.repository ++ name ++ ['.'] ++ stage.fileExtension

/-- The text of a source. A name that is not stored is fetched and stored. -/
def sourceText (plan : Plan σ) (stage : Stage) : Source → ExceptT Failure (Run σ) Text
  | .code text => return text
  | .named name => do
    let s ← get
    match s.store.shader? (storeKey stage name) with
    | some text => return text
    | none =>
      match ← (plan.engine.fetch (plan.url stage name) : Traced _) with
      | .error _ =>
        throw ({ cause := .shaderNotFound name : Failure }.inShader (plan.url stage name))
      | .ok text =>
        set { s with store := s.store.setShader (storeKey stage name) text }
        return text

/-- A run over a source, with its failures in the name of that source. -/
def within (source : Source) (run : Run σ (Except Failure α)) : ExceptT Failure (Run σ) α :=
  ExceptT.mk do return (← run).mapError (·.inShader source.label)

def buildEffect (plan : Plan σ) (vertex fragment : Source) (defines : List Text) :
    ExceptT Failure (Run σ) Effect := do
  let o := plan.optionsFor defines
  let vertexText ← plan.sourceText .vertex vertex
  let fragmentText ← plan.sourceText .fragment fragment
  o.setUp
  let v ← within vertex ({ o with isFragment := false }.process plan.engine vertexText)
  let f ← within fragment ({ o with isFragment := true }.process plan.engine fragmentText)
  let (vertexCode, fragmentCode) ← o.finish v.code f.code
  return {
    key := Effect.keyOf vertex fragment defines
    vertex := vertexCode
    fragment := fragmentCode
    rawVertex := v.codeWithIncludes
    rawFragment := f.codeWithIncludes }

def buildCompute (plan : Plan σ) (source : Source) (defines : List Text) :
    ExceptT Failure (Run σ) ComputeShader := do
  let o := plan.optionsFor defines
  let text ← plan.sourceText .compute source
  o.setUp
  let p ← within source ({ o with isFragment := false }.preprocess plan.engine text)
  return {
    key := ComputeShader.keyOf source defines
    code := p.code
    raw := p.codeWithIncludes }

end Plan

namespace Compiler

/-- How many products are cached. -/
def cached (c : Compiler σ) : Nat := c.effects.size + c.computes.size

def clear (c : Compiler σ) : Compiler σ := { c with effects := ∅, computes := ∅ }

/-- A compilation, with the target as new. -/
def build (c : Compiler σ) (plan : Plan σ) (work : ExceptT Failure (Run σ) α) :
    Traced (Except Failure α × Compiler σ) := do
  let (result, session) ← work.run.run { c.session with lines := plan.initial }
  return (result, { c with session, builds := c.builds + 1 })

/-- The effect of two sources under `defines`. -/
def effect (c : Compiler σ) (plan : Plan σ) (vertex fragment : Source) (defines : List Text) :
    Traced (Except Failure Effect × Compiler σ) := do
  let key := Effect.keyOf vertex fragment defines
  match c.effects.get? key with
  | some effect =>
    Traced.debug ("effect cache hit: ".toList ++ shortKey key)
    return (.ok effect, c)
  | none =>
    Traced.debug ("compiling effect ".toList ++ shortKey key)
    match ← c.build plan (plan.buildEffect vertex fragment defines) with
    | (.error failure, c) => return (.error failure, c)
    | (.ok effect, c) => return (.ok effect, { c with effects := c.effects.insert key effect })

/-- The compute shader of a source under `defines`. -/
def compute (c : Compiler σ) (plan : Plan σ) (source : Source) (defines : List Text) :
    Traced (Except Failure ComputeShader × Compiler σ) := do
  let key := ComputeShader.keyOf source defines
  match c.computes.get? key with
  | some shader =>
    Traced.debug ("compute cache hit: ".toList ++ shortKey key)
    return (.ok shader, c)
  | none =>
    Traced.debug ("compiling compute shader ".toList ++ shortKey key)
    match ← c.build plan (plan.buildCompute source defines) with
    | (.error failure, c) => return (.error failure, c)
    | (.ok shader, c) => return (.ok shader, { c with computes := c.computes.insert key shader })

end Compiler
end ShaderPrep
