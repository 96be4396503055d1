import ShaderPrep.Effect.Compiler

/-! Requests to a compiler, one after the other. A slot of the caches holds the product of the
first request for it that compiled, and every later request for the slot is answered with that. -/
namespace ShaderPrep

inductive Request where
  | effect (vertex fragment : Source) (defines : List Text)
  | compute (source : Source) (defines : List Text)
  deriving DecidableEq, Repr

inductive Product where
  | effect (effect : Effect)
  | compute (shader : ComputeShader)
  deriving DecidableEq, Repr

/-- A place in one of the two caches. -/
inductive Slot where
  | effect (key : Text)
  | compute (key : Text)
  deriving DecidableEq, Repr

def Request.slot : Request → Slot
  | effect vertex fragment defines => .effect (Effect.keyOf vertex fragment defines)
  | compute source defines => .compute (ComputeShader.keyOf source defines)

namespace Compiler
variable {σ : Type} {c : Compiler σ} {r : Request} {p : Product}

def cached? (c : Compiler σ) : Slot → Option Product
  | .effect key => (c.effects.get? key).map .effect
  | .compute key => (c.computes.get? key).map .compute

variable (plan : Plan σ)

/-- The answer to a request, and the compiler that it leaves. -/
def serve (c : Compiler σ) : Request → Except Failure Product × Compiler σ
  | .effect vertex fragment defines =>
    let answer := (c.effect plan vertex fragment defines).value
    (answer.1.map .effect, answer.2)
  | .compute source defines =>
    let answer := (c.compute plan source defines).value
    (answer.1.map .compute, answer.2)

/-- The answer that a compiler with the same store and empty caches gives. -/
def fresh (c : Compiler σ) (r : Request) : Except Failure Product := (c.clear.serve plan r).1

def after (c : Compiler σ) : List Request → Compiler σ
  | [] => c
  | r :: requests => (c.serve plan r).2.after requests

section Serve

/-- What a compilation makes does not depend on the caches, and it leaves them alone. -/
theorem value_build {α : Type} (c : Compiler σ) (work : ExceptT Failure (Run σ) α) :
    ∃ session, (c.build plan work).value =
      ((c.clear.build plan work).value.1, { c with session, builds := c.builds + 1 }) :=
  ⟨_, rfl⟩

/-- Of the session, a compilation sees the store and nothing else. -/
theorem value_build_congr {α : Type} {c c' : Compiler σ}
    (same : c.session.store = c'.session.store) (work : ExceptT Failure (Run σ) α) :
    (c.build plan work).value.1 = (c'.build plan work).value.1 := by
  simp only [build, Traced.value_bind, same]
  rfl

theorem fresh_effect (c : Compiler σ) (vertex fragment : Source) (defines : List Text) :
    c.fresh plan (.effect vertex fragment defines) =
      (c.clear.build plan (plan.buildEffect vertex fragment defines)).value.1.map .effect := by
  have none : c.clear.effects.get? (Effect.keyOf vertex fragment defines) = none := rfl
  simp only [fresh, serve, Compiler.effect, none, Traced.value_bind]
  cases (c.clear.build plan (plan.buildEffect vertex fragment defines)).value with
  | mk result c' => cases result <;> rfl

theorem fresh_compute (c : Compiler σ) (source : Source) (defines : List Text) :
    c.fresh plan (.compute source defines) =
      (c.clear.build plan (plan.buildCompute source defines)).value.1.map .compute := by
  have none : c.clear.computes.get? (ComputeShader.keyOf source defines) = none := rfl
  simp only [fresh, serve, Compiler.compute, none, Traced.value_bind]
  cases (c.clear.build plan (plan.buildCompute source defines)).value with
  | mk result c' => cases result <;> rfl

/-- What a compiler with empty caches answers depends on its store alone. -/
theorem fresh_congr {c c' : Compiler σ} (same : c.session.store = c'.session.store)
    (r : Request) : c.fresh plan r = c'.fresh plan r := by
  have alike : c.clear.session.store = c'.clear.session.store := same
  cases r with
  | effect vertex fragment defines =>
    rw [fresh_effect, fresh_effect, value_build_congr plan alike]
  | compute source defines =>
    rw [fresh_compute, fresh_compute, value_build_congr plan alike]

theorem serve_of_cached (h : c.cached? r.slot = some p) : c.serve plan r = (.ok p, c) := by
  cases r with
  | effect vertex fragment defines =>
    obtain ⟨effect, found, rfl⟩ := Option.map_eq_some_iff.mp h
    simp only [serve, Compiler.effect, found]
    rfl
  | compute source defines =>
    obtain ⟨shader, found, rfl⟩ := Option.map_eq_some_iff.mp h
    simp only [serve, Compiler.compute, found]
    rfl

theorem cached?_insert_effect (c : Compiler σ) (key : Text) (effect : Effect) (slot : Slot) :
    cached? { c with effects := c.effects.insert key effect } slot =
      if slot = .effect key then some (.effect effect) else c.cached? slot := by
  cases slot with
  | effect k =>
    by_cases same : k = key
    · simp [cached?, same]
    · simp [cached?, same]
  | compute k => simp [cached?]

theorem cached?_insert_compute (c : Compiler σ) (key : Text) (shader : ComputeShader)
    (slot : Slot) :
    cached? { c with computes := c.computes.insert key shader } slot =
      if slot = .compute key then some (.compute shader) else c.cached? slot := by
  cases slot with
  | effect k => simp [cached?]
  | compute k =>
    by_cases same : k = key
    · simp [cached?, same]
    · simp [cached?, same]

/-- All that a request can do that is not answered from the caches: it fails and leaves them as they
were, or it fills its slot. Either way it is answered as without caches. -/
theorem serve_cases (h : c.cached? r.slot = none) :
    (∃ failure session, c.fresh plan r = .error failure ∧
      c.serve plan r = (.error failure, { c with session, builds := c.builds + 1 })) ∨
    ∃ p c', c.fresh plan r = .ok p ∧ c.serve plan r = (.ok p, c') ∧
      ∀ slot, c'.cached? slot = if slot = r.slot then some p else c.cached? slot := by
  cases r with
  | effect vertex fragment defines =>
    have absent := Option.map_eq_none_iff.mp h
    obtain ⟨session, built⟩ := c.value_build plan (plan.buildEffect vertex fragment defines)
    rw [fresh_effect]
    simp only [serve, Compiler.effect, absent, Traced.value_bind, built]
    cases (c.clear.build plan (plan.buildEffect vertex fragment defines)).value.1 with
    | error failure => exact .inl ⟨failure, session, rfl, rfl⟩
    | ok effect => exact .inr ⟨_, _, rfl, rfl, cached?_insert_effect _ _ effect⟩
  | compute source defines =>
    have absent := Option.map_eq_none_iff.mp h
    obtain ⟨session, built⟩ := c.value_build plan (plan.buildCompute source defines)
    rw [fresh_compute]
    simp only [serve, Compiler.compute, absent, Traced.value_bind, built]
    cases (c.clear.build plan (plan.buildCompute source defines)).value.1 with
    | error failure => exact .inl ⟨failure, session, rfl, rfl⟩
    | ok shader => exact .inr ⟨_, _, rfl, rfl, cached?_insert_compute _ _ shader⟩

theorem serve_of_not_cached (h : c.cached? r.slot = none) :
    (c.serve plan r).1 = c.fresh plan r ∧ ∀ slot, (c.serve plan r).2.cached? slot =
      if slot = r.slot then (c.fresh plan r).toOption else c.cached? slot := by
  rcases serve_cases plan h with ⟨failure, session, fresh, served⟩ | ⟨p, c', fresh, served, filled⟩
  · rw [fresh, served]
    refine ⟨rfl, fun slot => ?_⟩
    split
    · next own => exact own ▸ h
    · rfl
  · rw [fresh, served]
    exact ⟨rfl, filled⟩

/-- A failure leaves the caches as they were. -/
theorem serve_eq_error {failure : Failure} (h : (c.serve plan r).1 = .error failure) :
    (c.serve plan r).2.effects = c.effects ∧ (c.serve plan r).2.computes = c.computes := by
  cases held : c.cached? r.slot with
  | some p =>
    rw [serve_of_cached plan held] at h
    cases h
  | none =>
    rcases serve_cases plan held with ⟨_, session, -, served⟩ | ⟨p, c', -, served, -⟩
    · rw [served]
      exact ⟨rfl, rfl⟩
    · rw [served] at h
      cases h

end Serve

end Compiler
end ShaderPrep
