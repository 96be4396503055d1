import ShaderPrep.Effect.Compiler
import ShaderPrep.Proofs.Processing.Uses

/-! What one compilation asks of the engine, and what it leaves in the store. The sources of its
stages are gathered first, and a refusal ends it; then includes are resolved, stage by stage. What
is loaded was missing, and it is stored at once. -/
namespace ShaderPrep

/-- A table that has grown by these keys, each of them new, and has kept all that it had. -/
structure Table.Grows (before after : Table α) (keys : List Text) : Prop where
  kept : ∀ {key value}, before.get? key = some value → after.get? key = some value
  missing : ∀ {key}, key ∈ keys → before.get? key = none
  has_iff : ∀ {key}, after.has key = true ↔ before.has key = true ∨ key ∈ keys
  once : keys.Nodup

namespace Table.Grows
variable {α : Type} {before between after : Table α} {keys keys' : List Text}

theorem refl (table : Table α) : Grows table table [] := ⟨id, nofun, by simp, .nil⟩

theorem insert {key : Text} (missing : before.get? key = none) (value : α) :
    Grows before (before.insert key value) [key] := by
  refine ⟨?_, ?_, ?_, List.nodup_singleton key⟩
  · intro k v there
    have other : k ≠ key := by
      rintro rfl
      rw [missing] at there
      cases there
    rw [get?_insert, if_neg other, there]
  · rintro k mem
    rw [List.mem_singleton.mp mem, missing]
  · intro k
    rw [← mem_keys_iff, ← mem_keys_iff, mem_keys_insert, List.mem_singleton, or_comm]

theorem append (h : Grows before between keys) (h' : Grows between after keys') :
    Grows before after (keys ++ keys') := by
  refine ⟨fun there => h'.kept (h.kept there), ?_, ?_, ?_⟩
  · intro key mem
    rcases List.mem_append.mp mem with mem | mem
    · exact h.missing mem
    · by_contra there
      obtain ⟨value, there⟩ := Option.ne_none_iff_exists'.mp there
      have kept := h.kept there
      rw [h'.missing mem] at kept
      cases kept
  · intro key
    rw [h'.has_iff, h.has_iff, List.mem_append, or_assoc]
  · refine h.once.append h'.once fun key mem later => ?_
    -- What came first is there by then, and only what is missing comes later.
    have there := h.has_iff.mpr (.inr mem)
    rw [Table.has, h'.missing later] at there
    cases there

end Table.Grows

section Fetches
variable {settings : Settings} {engine : Option Engine} {store between final : Store}
  {keys keys' : List Text}

theorem Include.Fetches.append (h : Include.Fetches settings engine store keys between)
    (h' : Include.Fetches settings engine between keys' final) :
    Include.Fetches settings engine store (keys ++ keys') final := by
  induction h with
  | nil => exact h'
  | cons missing given loaded _ ih => exact .cons missing given loaded (ih h')

/-- Of the settings, only the repository says where includes are fetched from. -/
theorem Include.Fetches.congr {settings' : Settings}
    (same : settings.repository = settings'.repository)
    (h : Include.Fetches settings engine store keys final) :
    Include.Fetches settings' engine store keys final := by
  induction h with
  | nil => exact .nil
  | @cons store key e text keys final missing given loaded _ ih =>
    have url : Include.url settings key = Include.url settings' key := by
      rw [Include.url, Include.url, same]
    exact .cons missing given (url ▸ loaded) ih

theorem Include.Fetches.shaders (h : Include.Fetches settings engine store keys final) :
    final.shaders = store.shaders := by
  induction h with
  | nil => rfl
  | cons _ _ _ _ ih => exact ih

theorem Include.Fetches.includes (h : Include.Fetches settings engine store keys final) :
    store.includes.Grows final.includes keys := by
  induction h with
  | nil => exact .refl _
  | cons missing _ _ _ ih => exact (Table.Grows.insert missing _).append ih

end Fetches

namespace Plan
variable {σ : Type}

/-- The sources of stages gathered in order. Those that were missing are loaded and stored, up to
one that is refused. -/
inductive Gathers (plan : Plan σ) :
    Store → List (Stage × Source) → List (Stage × Text) → Option (Stage × Text) → Store → Prop
  | nil : Gathers plan store [] [] none store
  | code : Gathers plan store sources loaded refused final →
      Gathers plan store ((stage, .code text) :: sources) loaded refused final
  | stored : store.shader? (storeKey stage name) = some text →
      Gathers plan store sources loaded refused final →
      Gathers plan store ((stage, .named name) :: sources) loaded refused final
  | loaded {store : Store} {stage : Stage} {name text : Text} :
      store.shader? (storeKey stage name) = none →
      plan.engine.load (plan.url stage name) = .ok text →
      Gathers plan (store.setShader (storeKey stage name) text) sources loaded refused final →
      Gathers plan store ((stage, .named name) :: sources) ((stage, name) :: loaded) refused final
  | refused : store.shader? (storeKey stage name) = none →
      plan.engine.load (plan.url stage name) = .error reason →
      Gathers plan store ((stage, .named name) :: sources) [] (some (stage, name)) store

namespace Gathers
variable {plan : Plan σ} {store final : Store} {sources : List (Stage × Source)}
  {loaded : List (Stage × Text)} {refused : Option (Stage × Text)} {stage : Stage} {name : Text}

theorem includes (h : Gathers plan store sources loaded refused final) :
    final.includes = store.includes := by
  induction h with
  | nil => rfl
  | code _ ih => exact ih
  | stored _ _ ih => exact ih
  | loaded _ _ _ ih => exact ih
  | refused => rfl

theorem shaders (h : Gathers plan store sources loaded refused final) :
    store.shaders.Grows final.shaders (loaded.map fun (stage, name) => storeKey stage name) := by
  induction h with
  | nil => exact .refl _
  | code _ ih => exact ih
  | stored _ _ ih => exact ih
  | loaded missing _ _ ih => exact (Table.Grows.insert missing _).append ih
  | refused => exact .refl _

/-- A source that is refused is missing then and stays so. -/
theorem absent (h : Gathers plan store sources loaded (some (stage, name)) final) :
    final.shader? (storeKey stage name) = none ∧
      ∃ reason, plan.engine.load (plan.url stage name) = .error reason := by
  generalize last : some (stage, name) = refused at h
  induction h with
  | nil => cases last
  | code _ ih => exact ih last
  | stored _ _ ih => exact ih last
  | loaded _ _ _ ih => exact ih last
  | refused absent refusal =>
    cases last
    exact ⟨absent, _, refusal⟩

end Gathers
/-- What a compilation asks the engine for, in this order. -/
structure Asked where
  /-- Stages that were loaded. -/
  stages : List (Stage × Text) := []
  /-- The stage that was refused. -/
  stage? : Option (Stage × Text) := none
  /-- Includes that were fetched. -/
  includes : List Text := []
  /-- The include that was refused. -/
  include? : Option Text := none
  deriving DecidableEq, Repr

namespace Asked

def stageKeys (asked : Asked) : List Text :=
  asked.stages.map fun (stage, name) => storeKey stage name

def loads (plan : Plan σ) (asked : Asked) : List Text :=
  (asked.stages ++ asked.stage?.toList).map (fun (stage, name) => plan.url stage name) ++
    (asked.includes ++ asked.include?.toList).map (Include.url plan.options.toSettings)

end Asked

/-- What a compilation of these sources has done to a store when it asked for this much. -/
structure Account (plan : Plan σ) (sources : List (Stage × Source)) (store : Store)
    (asked : Asked) (failed : Option Failure) (final : Store) (loads : List Text) : Prop where
  fills : ∃ gathered, Gathers plan store sources asked.stages asked.stage? gathered ∧
    Include.Fetches plan.options.toSettings plan.engine gathered asked.includes final
  loads : loads = asked.loads plan
  refused : ∀ stage name, asked.stage? = some (stage, name) →
    asked.includes = [] ∧ asked.include? = none ∧
      failed = some (({ cause := .shaderNotFound name } : Failure).inShader (plan.url stage name))
  vain : ∀ key, asked.include? = some key → final.include? key = none ∧ failed ≠ none

namespace Account
variable {plan : Plan σ} {sources : List (Stage × Source)} {store final : Store} {asked : Asked}
  {failed : Option Failure} {loads : List Text} {stage : Stage} {name : Text}

theorem shaders (h : plan.Account sources store asked failed final loads) :
    store.shaders.Grows final.shaders asked.stageKeys := by
  obtain ⟨gathered, gathers, fetches⟩ := h.fills
  rw [fetches.shaders]
  exact gathers.shaders

theorem includes (h : plan.Account sources store asked failed final loads) :
    store.includes.Grows final.includes asked.includes := by
  obtain ⟨gathered, gathers, fetches⟩ := h.fills
  rw [← gathers.includes]
  exact fetches.includes

theorem absent (h : plan.Account sources store asked failed final loads)
    (refused : asked.stage? = some (stage, name)) :
    final.shader? (storeKey stage name) = none := by
  obtain ⟨gathered, gathers, fetches⟩ := h.fills
  rw [Store.shader?, fetches.shaders]
  exact (refused ▸ gathers).absent.1

end Account

section Expands
variable {α β : Type} {settings : Settings} {engine : Option Engine}

/-- Work that does no more to the store, and asks the engine for no more, than includes call for; an
include asked for in vain makes it fail. -/
def Expands (settings : Settings) (engine : Option Engine) (work : Run σ (Except Failure α)) :
    Prop :=
  ∀ s, ∃ (keys : List Text) (vain : Option Text),
    Include.Fetches settings engine s.store keys (work s).value.2.store ∧
    (work s).loads = (keys ++ vain.toList).map (Include.url settings) ∧
    ∀ key, vain = some key → (work s).value.2.store.include? key = none ∧
      Include.failure? (work s).value.1 ≠ none

theorem expands_of_quiet {work : Run σ (Except Failure α)} (quiet : Quiet work) :
    Expands settings engine work := by
  intro s
  obtain ⟨kept, silent⟩ := quiet s
  exact ⟨[], none, kept ▸ .nil, silent, nofun⟩

/-- Work that is quiet and cannot fail. -/
theorem expands_lift {work : Run σ α} (quiet : Quiet work) :
    Expands settings engine (work : ExceptT Failure (Run σ) α).run :=
  expands_of_quiet (quiet.bind fun _ => quiet_pure _)

theorem Expands.bind {x : ExceptT Failure (Run σ) α} {f : α → ExceptT Failure (Run σ) β}
    (first : Expands settings engine x.run) (next : ∀ a, Expands settings engine (f a).run) :
    Expands settings engine (x >>= f).run := by
  intro s
  obtain ⟨keys, vain, fetches, loads, ending⟩ := first s
  change ∃ keys vain, Include.Fetches settings engine s.store keys
      ((x.run >>= ExceptT.bindCont f) s).value.2.store ∧
    ((x.run >>= ExceptT.bindCont f) s).loads = _ ∧ ∀ key, _ →
      ((x.run >>= ExceptT.bindCont f) s).value.2.store.include? key = none ∧
      Include.failure? ((x.run >>= ExceptT.bindCont f) s).value.1 ≠ none
  rw [Session.loads_bind, Session.value_bind]
  cases result : (x.run s).value.1 with
  | error failure =>
    refine ⟨keys, vain, fetches, loads ▸ List.append_nil _, fun key asked => ⟨?_, nofun⟩⟩
    exact (ending key asked).1
  | ok a =>
    -- What comes next was not asked for in vain before.
    have clean : vain = none := by
      cases vain with
      | none => rfl
      | some key => exact absurd (result ▸ rfl) (ending key rfl).2
    obtain ⟨keys', vain', fetches', loads', ending'⟩ := next a (x.run s).value.2
    refine ⟨keys ++ keys', vain', fetches.append fetches', ?_, ending'⟩
    rw [loads, clean]
    change _ ++ ((f a).run (x.run s).value.2).loads = _
    rw [loads']
    simp

theorem Expands.congr {settings' : Settings} {work : Run σ (Except Failure α)}
    (same : settings.repository = settings'.repository) (h : Expands settings engine work) :
    Expands settings' engine work := by
  have url : Include.url settings = Include.url settings' := by
    funext key
    rw [Include.url, Include.url, same]
  intro s
  obtain ⟨keys, vain, fetches, loads, ending⟩ := h s
  exact ⟨keys, vain, fetches.congr same, url ▸ loads, ending⟩

/-- A stage in the name of its source. -/
theorem expands_within (source : Source) {run : Run σ (Except Failure α)}
    (resolves : Resolves settings engine run) :
    Expands settings engine (within source run).run := by
  intro s
  obtain ⟨text, failed, final, loads⟩ := resolves s
  obtain ⟨keys, account⟩ := Include.account_resolve settings engine s.store text
  obtain ⟨asked, loads', ending⟩ := account.asked
  have left : ((within source run).run s).value.2 = (run s).value.2 := rfl
  have silent : ((within source run).run s).loads = (run s).loads :=
    (Session.loads_bind run _ s).trans (List.append_nil _)
  have fails (h : Include.failure? (run s).value.1 ≠ none) :
      Include.failure? ((within source run).run s).value.1 ≠ none := by
    change Include.failure? ((run s).value.1.mapError _) ≠ none
    cases result : (run s).value.1 with
    | error failure => exact nofun
    | ok a => exact absurd (result ▸ rfl) h
  rw [silent, left, final, loads, loads']
  rw [failed] at fails
  generalize Include.failure? (Include.resolve settings engine s.store text).value.1 = failed at *
  cases ending with
  | @refused e key reason given missing refusal =>
    refine ⟨keys, some key, account.fetches, by simp, ?_⟩
    rintro _ ⟨⟩
    exact ⟨missing, fails nofun⟩
  | _ => exact ⟨keys, none, account.fetches, by simp, nofun⟩

theorem expands_process (o : Options σ) (engine : Option Engine) (source : Source) (text : Text) :
    Expands o.toSettings engine (within source (o.process engine text)).run :=
  expands_within source (o.resolves_runOn engine text (o.quiet_convertStage engine))

theorem expands_preprocess (o : Options σ) (engine : Option Engine) (source : Source)
    (text : Text) : Expands o.toSettings engine (within source (o.preprocess engine text)).run :=
  expands_within source (o.resolves_runOn engine text (o.quiet_convert engine))

end Expands

section Stages
variable {α β : Type} (plan : Plan σ)

/-- Work that gathers these sources first, and then does no more than includes call for. -/
def Accounts (sources : List (Stage × Source)) (work : ExceptT Failure (Run σ) α) : Prop :=
  ∀ s, ∃ asked, Account plan sources s.store asked (Include.failure? (work.run s).value.1)
    (work.run s).value.2.store (work.run s).loads

variable {plan} {stage : Stage} {name : Text} {s : Session σ}
  {next : Text → ExceptT Failure (Run σ) α}

theorem accounts_of_expands {work : ExceptT Failure (Run σ) α}
    (expands : Expands plan.options.toSettings plan.engine work.run) : Accounts plan [] work := by
  intro s
  obtain ⟨keys, vain, fetches, loads, ending⟩ := expands s
  exact ⟨{ includes := keys, include? := vain }, ⟨_, .nil, fetches⟩, loads, nofun, ending⟩

theorem run_lift_bind (x : Traced α) (f : α → ExceptT Failure (Run σ) β) (s : Session σ) :
    ((x : ExceptT Failure (Run σ) α) >>= f).run s = x >>= fun a => (f a).run s := by
  change ((x >>= fun a => pure (a, s)) >>= fun p => pure (Except.ok p.1, p.2)) >>=
    (fun p => (ExceptT.bindCont f p.1 : Run σ (Except Failure β)) p.2) = _
  simp only [bind_assoc, pure_bind]
  rfl

/-- What gathering one source does before the rest of the work. -/
theorem run_sourceText (plan : Plan σ) (stage : Stage) (name : Text)
    (next : Text → ExceptT Failure (Run σ) α) (s : Session σ) :
    (plan.sourceText stage (.named name) >>= next).run s =
      match s.store.shader? (storeKey stage name) with
      | some text => (next text).run s
      | none =>
        plan.engine.fetch (plan.url stage name) >>= fun
        | .error _ =>
          pure (.error
            (({ cause := .shaderNotFound name } : Failure).inShader (plan.url stage name)), s)
        | .ok text =>
          (next text).run { s with store := s.store.setShader (storeKey stage name) text } := by
  rw [sourceText, bind_assoc]
  change ((match s.store.shader? (storeKey stage name) with
    | some text => pure text
    | none => _ : ExceptT Failure (Run σ) Text) >>= next).run s = _
  cases s.store.shader? (storeKey stage name) with
  | some text => rfl
  | none =>
    dsimp only
    rw [bind_assoc, run_lift_bind]
    congr 1
    funext answer
    cases answer <;> rfl

theorem Accounts.sourceText {sources : List (Stage × Source)} (stage : Stage) (source : Source)
    (rest : ∀ text, Accounts plan sources (next text)) :
    Accounts plan ((stage, source) :: sources) (plan.sourceText stage source >>= next) := by
  intro s
  cases source with
  | code text =>
    obtain ⟨asked, account⟩ := rest text s
    obtain ⟨gathered, gathers, fetches⟩ := account.fills
    exact ⟨asked, { account with fills := ⟨gathered, .code gathers, fetches⟩ }⟩
  | named name =>
    rw [run_sourceText]
    cases stored : s.store.shader? (storeKey stage name) with
    | some text =>
      obtain ⟨asked, account⟩ := rest text s
      obtain ⟨gathered, gathers, fetches⟩ := account.fills
      exact ⟨asked, { account with fills := ⟨gathered, .stored stored gathers, fetches⟩ }⟩
    | none =>
      dsimp only
      rw [Traced.value_bind, Traced.loads_bind, Engine.value_fetch, Engine.loads_fetch]
      cases loaded : plan.engine.load (plan.url stage name) with
      | error reason =>
        refine ⟨{ stage? := some (stage, name) }, ⟨_, .refused stored loaded, .nil⟩, rfl, ?_, nofun⟩
        rintro _ _ ⟨⟩
        exact ⟨rfl, rfl, rfl⟩
      | ok text =>
        obtain ⟨asked, account⟩ := rest text
          { s with store := s.store.setShader (storeKey stage name) text }
        obtain ⟨gathered, gathers, fetches⟩ := account.fills
        refine ⟨{ asked with stages := (stage, name) :: asked.stages }, { account with
          fills := ⟨gathered, .loaded stored loaded gathers, fetches⟩
          loads := ?_ }⟩
        rw [account.loads]
        rfl

theorem quiet_setUp (o : Options σ) : Quiet o.setUp := by
  unfold Options.setUp
  split
  · exact quiet_pure ()
  · exact fun _ => ⟨rfl, rfl⟩

theorem quiet_finish (o : Options σ) (vertex fragment : Text) : Quiet (o.finish vertex fragment) :=
  (o.quiet_askTarget _).bind fun _ => quiet_pure _

theorem accounts_buildEffect (plan : Plan σ) (vertex fragment : Source) (defines : List Text) :
    Accounts plan [(.vertex, vertex), (.fragment, fragment)]
      (plan.buildEffect vertex fragment defines) := by
  refine .sourceText .vertex vertex fun vertexText => ?_
  refine .sourceText .fragment fragment fun fragmentText => accounts_of_expands ?_
  refine (expands_lift (quiet_setUp _)).bind fun _ => ?_
  refine .bind (.congr ?_ (expands_process _ _ vertex vertexText)) fun v => ?_
  · rfl
  refine .bind (.congr ?_ (expands_process _ _ fragment fragmentText)) fun f => ?_
  · rfl
  exact (expands_lift (quiet_finish _ _ _)).bind fun codes => expands_of_quiet (quiet_pure _)

theorem accounts_buildCompute (plan : Plan σ) (source : Source) (defines : List Text) :
    Accounts plan [(.compute, source)] (plan.buildCompute source defines) := by
  refine .sourceText .compute source fun text => accounts_of_expands ?_
  refine (expands_lift (quiet_setUp _)).bind fun _ => ?_
  refine .bind (.congr ?_ (expands_preprocess _ _ source text)) fun p => ?_
  · rfl
  exact expands_of_quiet (quiet_pure _)

end Stages
end Plan
end ShaderPrep
