import ShaderPrep.Processing.Run
import ShaderPrep.Proofs.Include.Fetching

/-! One store in use again and again. Processing reaches the store and the engine's files only where
it resolves includes, so each use is accounted for, and no two of them fetch the same include. -/
namespace ShaderPrep

@[simp] theorem Guard.loads_read (condition : Text) : (Guard.read condition).loads = [] := by
  simp [Guard.read, Traced.loads]

namespace Tree

@[simp] theorem loads_guardOfLine (line : Text) (width : Nat) :
    (guardOfLine line width).loads = [] := by
  simp only [guardOfLine]
  split
  · rfl
  · split <;> simp

theorem Builder.loads_step (b : Builder) (line : Text) : (b.step line).loads = [] := by
  have continued (block : OpenBlock) : (b.continueBlock block line).loads = [] := by
    unfold continueBlock
    split
    · rfl
    · split <;> simp
  unfold step
  split <;> simp [continued]

theorem Builder.loads_run (b : Builder) (current : Text) (lines : List Text) :
    (b.run current lines).loads = [] := by
  induction lines generalizing b current with
  | nil => rfl
  | cons line rest ih =>
    simp only [run, Traced.loads_bind, loads_step, List.nil_append]
    split
    · next b' _ => exact ih b' line
    · rfl

theorem loads_ofSource (source : Text) : (ofSource source).loads = [] := by
  simp [ofSource, segment, Builder.loads_run]

end Tree

namespace Session
variable {σ α β : Type}

theorem value_bind (work : Run σ α) (f : α → Run σ β) (s : Session σ) :
    ((work >>= f) s).value = (f (work s).value.1 (work s).value.2).value := rfl

theorem loads_bind (work : Run σ α) (f : α → Run σ β) (s : Session σ) :
    ((work >>= f) s).loads = (work s).loads ++ (f (work s).value.1 (work s).value.2).loads :=
  Traced.loads_bind (work s) fun p => f p.1 p.2

theorem loads_lift (x : Traced α) (s : Session σ) : ((x : Run σ α) s).loads = x.loads := by
  change (x >>= fun a => pure (a, s)).loads = x.loads
  simp

end Session

section Quiet

variable {σ α β : Type}

/-- Work that leaves the store alone and asks the engine for no file. -/
def Quiet (work : Run σ α) : Prop :=
  ∀ s, (work s).value.2.store = s.store ∧ (work s).loads = []

theorem quiet_pure (a : α) : Quiet (pure a : Run σ α) := fun _ => ⟨rfl, rfl⟩

theorem quiet_get : Quiet (get : Run σ (Session σ)) := fun _ => ⟨rfl, rfl⟩

theorem quiet_note {x : Traced α} (silent : x.loads = []) : Quiet (x : Run σ α) :=
  fun s => ⟨rfl, (Session.loads_lift x s).trans silent⟩

theorem Quiet.bind {work : Run σ α} {f : α → Run σ β} (first : Quiet work)
    (then_ : ∀ a, Quiet (f a)) : Quiet (work >>= f) := by
  intro s
  obtain ⟨kept, silent⟩ := first s
  obtain ⟨kept', silent'⟩ := then_ (work s).value.1 (work s).value.2
  refine ⟨kept'.trans kept, ?_⟩
  rw [Session.loads_bind, silent, silent']
  rfl

namespace Options
variable (o : Options σ) (engine : Option Engine)

theorem quiet_askTarget (hook : Target σ → Hook σ α) : Quiet (o.askTarget hook) := by
  unfold askTarget
  split
  · exact quiet_pure none
  · exact fun _ => ⟨rfl, rfl⟩

theorem quiet_evaluate (source : Text) (symbols : Symbols) : Quiet (o.evaluate source symbols) := by
  apply (quiet_note (Tree.loads_ofSource source)).bind
  exact fun root _ => ⟨rfl, rfl⟩

theorem quiet_convert (source : Text) : Quiet (o.convert engine source) := by
  apply quiet_get.bind
  intro s
  apply (o.quiet_askTarget _).bind
  intro edited
  apply Quiet.bind fun _ => ⟨rfl, rfl⟩
  intro _
  apply (o.quiet_evaluate _ _).bind
  intro code
  apply (o.quiet_askTarget _).bind
  intro edited
  split <;> exact quiet_pure _

theorem quiet_convertStage (source : Text) : Quiet (o.convertStage engine source) := by
  apply quiet_get.bind
  intro s
  split
  · exact quiet_pure _
  · dsimp only
    split
    · split
      · exact o.quiet_convert engine _
      · exact (quiet_note (Traced.loads_debug _)).bind fun _ => quiet_pure _
    · exact o.quiet_convert engine _

end Options
end Quiet

section Resolves

open Include (failure?)

variable {σ α β : Type} {settings : Settings} {engine : Option Engine}

/-- Work that is, to the store and to the engine, no more than resolving some source, and that
fails just as this does. -/
def Resolves (settings : Settings) (engine : Option Engine) (work : Run σ (Except Failure α)) :
    Prop :=
  ∀ s, ∃ source, let resolved := Include.resolve settings engine s.store source
    failure? (work s).value.1 = failure? resolved.value.1 ∧
    (work s).value.2.store = resolved.value.2 ∧ (work s).loads = resolved.loads

theorem Quiet.resolves {work : Run σ α} {f : α → Run σ (Except Failure β)} (first : Quiet work)
    (then_ : ∀ a, Resolves settings engine (f a)) : Resolves settings engine (work >>= f) := by
  intro s
  obtain ⟨kept, silent⟩ := first s
  obtain ⟨source, failed, final, loads⟩ := then_ (work s).value.1 (work s).value.2
  rw [kept] at failed final loads
  refine ⟨source, failed, final, ?_⟩
  rw [Session.loads_bind, silent, List.nil_append]
  exact loads

/-- What is done to the outcome keeps a failure, and what it does to a success is quiet. -/
theorem Resolves.bind {work : Run σ (Except Failure α)}
    {f : Except Failure α → Run σ (Except Failure β)} (first : Resolves settings engine work)
    (quiet : ∀ result, Quiet (f result))
    (same : ∀ result s, failure? (f result s).value.1 = failure? result) :
    Resolves settings engine (work >>= f) := by
  intro s
  obtain ⟨source, failed, final, loads⟩ := first s
  obtain ⟨kept, silent⟩ := quiet (work s).value.1 (work s).value.2
  refine ⟨source, (same ..).trans failed, kept.trans final, ?_⟩
  rw [Session.loads_bind, silent, List.append_nil]
  exact loads

theorem Resolves.map {work : Run σ (Except Failure α)} (h : Resolves settings engine work)
    (f : α → β) : Resolves settings engine (do return (← work).map f) := by
  apply h.bind fun _ => quiet_pure _
  intro result s
  cases result <;> rfl

namespace Options
variable (o : Options σ) (engine : Option Engine) (source : Text)

theorem resolves_resolveStored :
    Resolves o.toSettings engine (o.resolveStored engine source) := by
  intro s
  refine ⟨source, rfl, rfl, ?_⟩
  rw [resolveStored, Session.loads_bind, Session.loads_bind, Session.loads_lift]
  exact List.append_nil _

theorem resolves_withIncludes : Resolves o.toSettings engine (o.withIncludes engine source) := by
  apply (o.quiet_askTarget _).resolves
  intro edited
  apply (quiet_note (Traced.loads_debug _)).resolves
  intro _
  exact (o.resolves_resolveStored engine _).map _

theorem resolves_runOn {work : Text → Run σ Text} (quiet : ∀ code, Quiet (work code)) :
    Resolves o.toSettings engine (o.runOn engine source work) := by
  apply (o.resolves_withIncludes engine source).bind
  · intro result
    cases result with
    | error failure => exact quiet_pure _
    | ok code => exact (quiet code).bind fun _ => quiet_pure _
  · intro result s
    cases result <;> rfl

end Options
end Resolves

/-- What a store is used for: either kind of processing, or resolving alone. -/
inductive Work where
  | process
  | preprocess
  | includes
  deriving DecidableEq, Repr

/-- The code that comes of a source. -/
def Work.run (o : Options σ) (engine : Option Engine) (source : Text) :
    Work → Run σ (Except Failure Text)
  | .process => do return (← o.process engine source).map (·.code)
  | .preprocess => do return (← o.preprocess engine source).map (·.code)
  | .includes => o.resolveStored engine source

theorem Work.resolves (o : Options σ) (engine : Option Engine) (source : Text) (work : Work) :
    Resolves o.toSettings engine (work.run o engine source) := by
  cases work with
  | process => exact (o.resolves_runOn engine source (o.quiet_convertStage engine)).map _
  | preprocess => exact (o.resolves_runOn engine source (o.quiet_convert engine)).map _
  | includes => exact o.resolves_resolveStored engine source

/-- One use of a store: work on a source, with options, services and a target of its own. No file is
asked for twice in a use, so the engine need only say what the services answer during this one. -/
structure Use where
  {σ : Type}
  options : Options σ
  engine : Option Engine
  lines : LineState σ
  work : Work
  source : Text

namespace Use

def run (u : Use) (store : Store) : Traced (Except Failure Text × Session u.σ) :=
  u.work.run u.options u.engine u.source ⟨store, u.lines⟩

/-- The store that a use leaves. -/
def after (u : Use) (store : Store) : Store := (u.run store).value.2.store

/-- What a use has done to a store when it fetched these includes. -/
def Account (u : Use) (store : Store) (keys : List Text) : Prop :=
  Include.Account u.options.toSettings u.engine store keys (Include.failure? (u.run store).value.1)
    (u.after store) (u.run store).loads

theorem exists_account (u : Use) (store : Store) : ∃ keys, u.Account store keys := by
  obtain ⟨source, failed, final, loads⟩ :=
    u.work.resolves u.options u.engine u.source ⟨store, u.lines⟩
  obtain ⟨keys, account⟩ := Include.account_resolve u.options.toSettings u.engine store source
  refine ⟨keys, ?_⟩
  rw [Account, after, run, failed, final, loads]
  exact account

end Use

/-- Uses of one store, one after the other, with the includes that each of them fetched. -/
inductive History : Store → List Use → List (List Text) → Store → Prop
  | nil : History store [] [] store
  | cons : u.Account store keys → History (u.after store) uses log final →
      History store (u :: uses) (keys :: log) final

namespace History

variable {store final : Store} {uses : List Use} {log : List (List Text)}

theorem within (h : History store uses log final) : Include.Within store final := by
  induction h with
  | nil => exact .refl _
  | cons account _ ih => exact account.kept.trans ih

/-- Every include that is there at the end was there at first or was fetched on the way. -/
theorem stored_iff (h : History store uses log final) (key : Text) :
    (∃ text, final.include? key = some text) ↔
      (∃ text, store.include? key = some text) ∨ key ∈ log.flatten := by
  induction h with
  | nil => simp
  | @cons u store keys uses log final account _ ih =>
    rw [ih, List.flatten_cons, List.mem_append, ← or_assoc]
    apply or_congr_left
    constructor
    · rintro ⟨text, stored⟩
      rcases (account.entries key text).mp stored with before | ⟨mem, -⟩
      · exact .inl ⟨text, before⟩
      · exact .inr mem
    · rintro (⟨text, before⟩ | mem)
      · exact ⟨text, account.kept key text before⟩
      · exact account.fetches.stored mem

theorem missing (h : History store uses log final) {key : Text} (mem : key ∈ log.flatten) :
    store.include? key = none := by
  induction h with
  | nil => cases mem
  | @cons u store keys uses log final account _ ih =>
    rw [List.flatten_cons, List.mem_append] at mem
    rcases mem with mem | mem
    · exact account.fetches.missing mem
    · by_contra there
      obtain ⟨text, stored⟩ := Option.ne_none_iff_exists'.mp there
      have kept := account.kept key text stored
      rw [ih mem] at kept
      cases kept

theorem nodup (h : History store uses log final) : log.flatten.Nodup := by
  induction h with
  | nil => exact .nil
  | @cons u store keys uses log final account rest ih =>
    rw [List.flatten_cons]
    refine account.fetches.nodup.append ih ?_
    -- What a use fetched stays stored, and later ones fetch only what is missing.
    intro key mem later
    obtain ⟨text, stored⟩ := account.fetches.stored mem
    rw [rest.missing later] at stored
    cases stored

end History

theorem exists_history (store : Store) (uses : List Use) :
    ∃ log final, History store uses log final := by
  induction uses generalizing store with
  | nil => exact ⟨[], store, .nil⟩
  | cons u uses ih =>
    obtain ⟨keys, account⟩ := u.exists_account store
    obtain ⟨log, final, history⟩ := ih (u.after store)
    exact ⟨keys :: log, final, .cons account history⟩

/-- However a store is used, every use is accounted for: the store only grows, by what the engine
gave for the includes that were missing, and no include is fetched a second time. -/
theorem uses_fetch_once (store : Store) (uses : List Use) :
    ∃ log final, History store uses log final ∧ Include.Within store final ∧
      log.flatten.Nodup ∧ ∀ key, (∃ text, final.include? key = some text) ↔
        (∃ text, store.include? key = some text) ∨ key ∈ log.flatten := by
  obtain ⟨log, final, history⟩ := exists_history store uses
  exact ⟨log, final, history, history.within, history.nodup, history.stored_iff⟩

end ShaderPrep
