import Mathlib.Data.Finset.Card
import ShaderPrep.Proofs.Effect.Gathering
import ShaderPrep.Proofs.Effect.Requests

/-! A compiler in use: requests, each under a plan of its own, and clearings of the caches. The
store outlives the caches, so a source or include that was loaded once is never loaded again. -/
namespace ShaderPrep

/-- The sources a request gathers, in order. -/
def Request.sources : Request → List (Stage × Source)
  | effect vertex fragment _ => [(.vertex, vertex), (.fragment, fragment)]
  | compute source _ => [(.compute, source)]

namespace Slot

/-- The note on a request that is answered from the slot. -/
def hitNote : Slot → Event
  | effect key => .note .debug ("effect cache hit: ".toList ++ shortKey key)
  | compute key => .note .debug ("compute cache hit: ".toList ++ shortKey key)

def effectKey? : Slot → Option Text
  | effect key => some key
  | compute _ => none

def computeKey? : Slot → Option Text
  | effect _ => none
  | compute key => some key

end Slot

namespace Compiler
variable {σ : Type} {c : Compiler σ} {plan : Plan σ} {r : Request} {p : Product}

/-- The answer to a request with its events, and the compiler that it leaves. -/
def request (plan : Plan σ) (c : Compiler σ) :
    Request → Traced (Except Failure Product × Compiler σ)
  | .effect vertex fragment defines =>
    (fun answer => (answer.1.map .effect, answer.2)) <$> c.effect plan vertex fragment defines
  | .compute source defines =>
    (fun answer => (answer.1.map .compute, answer.2)) <$> c.compute plan source defines

theorem value_request (plan : Plan σ) (c : Compiler σ) (r : Request) :
    (c.request plan r).value = c.serve plan r := by
  cases r <;> rfl

theorem request_of_cached (h : c.cached? r.slot = some p) :
    c.request plan r = ⟨(.ok p, c), [r.slot.hitNote]⟩ := by
  cases r with
  | effect vertex fragment defines =>
    obtain ⟨effect, found, rfl⟩ := Option.map_eq_some_iff.mp h
    simp only [request, Compiler.effect, found]
    rfl
  | compute source defines =>
    obtain ⟨shader, found, rfl⟩ := Option.map_eq_some_iff.mp h
    simp only [request, Compiler.compute, found]
    rfl

theorem account_build {α : Type} {sources : List (Stage × Source)}
    {work : ExceptT Failure (Run σ) α} (accounts : Plan.Accounts plan sources work)
    (c : Compiler σ) : ∃ asked,
      Plan.Account plan sources c.session.store asked
        (Include.failure? (c.build plan work).value.1) (c.build plan work).value.2.session.store
        (c.build plan work).loads := by
  obtain ⟨asked, account⟩ := accounts { c.session with lines := plan.initial }
  refine ⟨asked, ?_⟩
  rw [build, Traced.loads_bind, Traced.loads_pure, List.append_nil]
  exact account

/-- A request that is not answered from the caches is a compilation of its sources. -/
theorem account_of_not_cached (plan : Plan σ) (h : c.cached? r.slot = none) : ∃ asked,
    Plan.Account plan r.sources c.session.store asked (Include.failure? (c.serve plan r).1)
      (c.serve plan r).2.session.store (c.request plan r).loads := by
  rw [← value_request]
  cases r with
  | effect vertex fragment defines =>
    have absent := Option.map_eq_none_iff.mp h
    obtain ⟨asked, account⟩ := account_build (plan.accounts_buildEffect vertex fragment defines) c
    refine ⟨asked, ?_⟩
    simp only [request, Compiler.effect, absent, Traced.value_map, Traced.value_bind,
      Traced.loads_map, Traced.loads_bind, Traced.loads_debug, List.nil_append]
    generalize c.build plan (plan.buildEffect vertex fragment defines) = built at account ⊢
    obtain ⟨⟨result, c'⟩, events⟩ := built
    cases result with
    | error failure => simpa [Request.sources, Except.map, Include.failure?] using account
    | ok effect => simpa [Request.sources, Except.map, Include.failure?] using account
  | compute source defines =>
    have absent := Option.map_eq_none_iff.mp h
    obtain ⟨asked, account⟩ := account_build (plan.accounts_buildCompute source defines) c
    refine ⟨asked, ?_⟩
    simp only [request, Compiler.compute, absent, Traced.value_map, Traced.value_bind,
      Traced.loads_map, Traced.loads_bind, Traced.loads_debug, List.nil_append]
    generalize c.build plan (plan.buildCompute source defines) = built at account ⊢
    obtain ⟨⟨result, c'⟩, events⟩ := built
    cases result with
    | error failure => simpa [Request.sources, Except.map, Include.failure?] using account
    | ok shader => simpa [Request.sources, Except.map, Include.failure?] using account

end Compiler

/-- What serving a request does when it asks the engine for this much. -/
structure Compiler.Served (plan : Plan σ) (c : Compiler σ) (r : Request) (asked : Plan.Asked) :
    Prop where
  failed : ∀ failure, (c.serve plan r).1 = .error failure →
    (c.serve plan r).2.effects = c.effects ∧ (c.serve plan r).2.computes = c.computes
  /-- Under whatever plan, nothing is loaded and no hook is asked for what is cached. -/
  cached : ∀ p, c.cached? r.slot = some p →
    c.request plan r = ⟨(.ok p, c), [r.slot.hitNote]⟩ ∧ asked = {}
  account : c.cached? r.slot = none →
    plan.Account r.sources c.session.store asked (Include.failure? (c.serve plan r).1)
      (c.serve plan r).2.session.store (c.request plan r).loads
  shaders : c.session.store.shaders.Grows (c.serve plan r).2.session.store.shaders asked.stageKeys
  includes :
    c.session.store.includes.Grows (c.serve plan r).2.session.store.includes asked.includes
  absent : ∀ stage name, asked.stage? = some (stage, name) →
    (c.serve plan r).2.session.store.shader? (Plan.storeKey stage name) = none

namespace Compiler
variable {σ : Type}

theorem exists_served (plan : Plan σ) (c : Compiler σ) (r : Request) :
    ∃ asked, c.Served plan r asked := by
  cases held : c.cached? r.slot with
  | some p =>
    have value := serve_of_cached plan held
    refine ⟨{}, fun _ => serve_eq_error plan, fun _ h => ⟨request_of_cached h, rfl⟩, ?_, ?_, ?_,
      nofun⟩
    · intro absent
      rw [held] at absent
      cases absent
    · rw [value]
      exact .refl _
    · rw [value]
      exact .refl _
  | none =>
    obtain ⟨asked, account⟩ := account_of_not_cached plan held
    refine ⟨asked, fun _ => serve_eq_error plan, ?_, fun _ => account, account.shaders,
      account.includes, fun stage name => account.absent⟩
    intro p there
    rw [held] at there
    cases there

end Compiler

/-- What is done to a compiler: a request under a plan of its own, or a clearing of the caches. -/
inductive Action (σ : Type) where
  | request (plan : Plan σ) (r : Request)
  | clear

namespace Compiler
variable {σ : Type}

def act (c : Compiler σ) : Action σ → Compiler σ
  | .request plan r => (c.serve plan r).2
  | .clear => c.clear

/-- The action asks the engine for this much. -/
def Acts (c : Compiler σ) (asked : Plan.Asked) : Action σ → Prop
  | .request plan r => c.Served plan r asked
  | .clear => asked = {}

/-- The slots for which a request compiled since the last clearing, those of `slots` before all
actions, the latest first. -/
def compiled (c : Compiler σ) (slots : List Slot) : List (Action σ) → List Slot
  | [] => slots
  | .clear :: actions => c.clear.compiled [] actions
  | .request plan r :: actions =>
    match (c.serve plan r).1 with
    | .ok _ => (c.serve plan r).2.compiled (r.slot :: slots) actions
    | .error _ => (c.serve plan r).2.compiled slots actions

/-- Actions on a compiler, one after the other, with what each of them asked the engine for. -/
inductive History : Compiler σ → List (Action σ) → List Plan.Asked → Compiler σ → Prop
  | nil : History c [] [] c
  | cons {c : Compiler σ} : c.Acts asked action → History (c.act action) actions log final →
      History c (action :: actions) (asked :: log) final

theorem exists_history (c : Compiler σ) (actions : List (Action σ)) :
    ∃ log final, History c actions log final := by
  induction actions generalizing c with
  | nil => exact ⟨[], c, .nil⟩
  | cons action actions ih =>
    obtain ⟨log, final, history⟩ := ih (c.act action)
    cases action with
    | request plan r =>
      obtain ⟨asked, served⟩ := c.exists_served plan r
      exact ⟨asked :: log, final, .cons served history⟩
    | clear => exact ⟨{} :: log, final, .cons rfl history⟩

namespace History
variable {c final : Compiler σ} {actions : List (Action σ)} {log : List Plan.Asked}

/-- The store grows by all that was asked for and given, also across clearings. -/
theorem stores (h : History c actions log final) :
    c.session.store.shaders.Grows final.session.store.shaders (log.flatMap (·.stageKeys)) ∧
      c.session.store.includes.Grows final.session.store.includes (log.flatMap (·.includes)) := by
  induction h with
  | nil => exact ⟨.refl _, .refl _⟩
  | @cons asked action actions log final c acts _ ih =>
    cases action with
    | request plan r => exact ⟨acts.shaders.append ih.1, acts.includes.append ih.2⟩
    | clear =>
      cases acts
      exact ih

end History

/-- The caches hold exactly these slots. -/
def Holds (c : Compiler σ) (slots : List Slot) : Prop :=
  ∀ slot, (c.cached? slot).isSome = true ↔ slot ∈ slots

section Holds
variable {c final : Compiler σ} {actions : List (Action σ)} {log : List Plan.Asked}
  {slots : List Slot}

theorem Holds.serve (h : c.Holds slots) (plan : Plan σ) (r : Request) : (c.serve plan r).2.Holds
    (match (c.serve plan r).1 with
      | .ok _ => r.slot :: slots
      | .error _ => slots) := by
  cases held : c.cached? r.slot with
  | some p =>
    have own : r.slot ∈ slots := (h r.slot).mp (held ▸ rfl)
    rw [serve_of_cached plan held]
    intro slot
    rw [h slot, List.mem_cons]
    exact ⟨.inr, fun mem => mem.elim (fun same => same ▸ own) id⟩
  | none =>
    obtain ⟨answer, cached⟩ := serve_of_not_cached plan held
    have other : r.slot ∉ slots := fun mem => by simpa [held] using (h r.slot).mpr mem
    rw [answer]
    intro slot
    rw [cached]
    cases c.fresh plan r with
    | ok p =>
      by_cases own : slot = r.slot
      · simp [own, Except.toOption]
      · simp [own, h slot]
    | error failure =>
      by_cases own : slot = r.slot
      · simp [own, Except.toOption, other]
      · simp [own, h slot]

theorem History.holds (h : History c actions log final) (holds : c.Holds slots) :
    final.Holds (c.compiled slots actions) := by
  induction h generalizing slots with
  | nil => exact holds
  | @cons asked action actions log final c _ _ ih =>
    cases action with
    | request plan r =>
      have served := holds.serve plan r
      rw [compiled]
      split <;> rename_i answer
      all_goals
        rw [answer] at served
        exact ih served
    | clear => exact ih fun slot => by cases slot <;> simp [act, clear, cached?]

theorem size_eq_card {α : Type} (table : Table α) {keys : List Text}
    (h : ∀ key, table.has key = true ↔ key ∈ keys) : table.size = keys.toFinset.card := by
  have same : keys.toFinset = table.keys.toFinset := by
    ext key
    rw [List.mem_toFinset, List.mem_toFinset, Table.mem_keys_iff, h]
  have nodup : table.keys.Nodup := table.nodup
  rw [same, List.toFinset_card_of_nodup nodup, Table.keys, List.length_map, Table.size]

theorem Holds.cached (h : c.Holds slots) :
    c.cached = (slots.filterMap Slot.effectKey?).toFinset.card +
      (slots.filterMap Slot.computeKey?).toFinset.card := by
  rw [Compiler.cached, size_eq_card c.effects, size_eq_card c.computes]
  · intro key
    have computes : (c.cached? (.compute key)).isSome = c.computes.has key := Option.isSome_map
    rw [← computes, h, List.mem_filterMap]
    constructor
    · exact fun mem => ⟨_, mem, rfl⟩
    · rintro ⟨_ | _, mem, same⟩ <;> cases same
      exact mem
  · intro key
    have effects : (c.cached? (.effect key)).isSome = c.effects.has key := Option.isSome_map
    rw [← effects, h, List.mem_filterMap]
    constructor
    · exact fun mem => ⟨_, mem, rfl⟩
    · rintro ⟨_ | _, mem, same⟩ <;> cases same
      exact mem

end Holds

/-- However a new compiler is used, every action on it is accounted for: a request that fails leaves
the caches alone, and one that is cached asks for nothing. The caches hold one product for each slot
that was compiled since they were last cleared, and the store only grows, by sources and includes
that are loaded once in all. -/
theorem compiler_history (session : Session σ) (actions : List (Action σ)) :
    let start : Compiler σ := { session }
    let compiled := start.compiled [] actions
    ∃ log final, History start actions log final ∧
      final.cached = (compiled.filterMap Slot.effectKey?).toFinset.card +
        (compiled.filterMap Slot.computeKey?).toFinset.card ∧
      session.store.shaders.Grows final.session.store.shaders (log.flatMap (·.stageKeys)) ∧
      session.store.includes.Grows final.session.store.includes (log.flatMap (·.includes)) := by
  intro start compiled
  obtain ⟨log, final, history⟩ := start.exists_history actions
  have empty : start.Holds [] := fun slot => by cases slot <;> simp [start, cached?]
  exact ⟨log, final, history, (history.holds empty).cached, history.stores⟩

end Compiler
end ShaderPrep
