import ShaderPrep.Proofs.Include.Rounds

/-! What resolving asks of the engine, and what it leaves in the store. Only missing includes are
asked for, and one that comes is stored at once, so none is asked for a second time. -/
namespace ShaderPrep.Include

variable {settings : Settings} {engine : Option Engine}

@[simp] theorem loads_upperBound (settings : Settings) (last : Text) :
    (upperBound settings last).loads = [] := by
  unfold upperBound
  split
  · rfl
  · split <;> simp

@[simp] theorem loads_putRange (settings : Settings) (range : Option Text) (content : Text) :
    (putRange settings range content).loads = [] := by
  unfold putRange
  split
  · rfl
  · split
    · simp only [unroll, Traced.loads_bind, loads_upperBound, List.nil_append]
      split <;> rfl
    · rfl

@[simp] theorem Directive.loads_expand (d : Directive) (settings : Settings) (content : Text) :
    (d.expand settings content).loads = [] := by
  unfold expand
  split <;> simp

theorem replaceAll_eq_error {pairs : List (Text × Text)} {content : Text} {failure : Failure}
    (h : pairs.foldlM replaceOne content = .error failure) :
    ∃ pattern reason, failure = { cause := .invalidReplacement pattern reason } := by
  induction pairs generalizing content with
  | nil => cases h
  | cons pair pairs ih =>
    rw [List.foldlM_cons] at h
    cases replaced : replaceOne content pair with
    | ok content =>
      rw [replaced] at h
      exact ih h
    | error fault =>
      rw [replaced] at h
      cases h
      unfold replaceOne at replaced
      split at replaced
      · cases replaced
      · cases replaced
        exact ⟨_, _, rfl⟩

/-- Only a replacement that is no pattern makes an expansion fail. -/
theorem Directive.expand_eq_error {d : Directive} {content : Text} {failure : Failure}
    (h : (d.expand settings content).value = .error failure) :
    ∃ pattern reason, failure = { cause := .invalidReplacement pattern reason } := by
  unfold expand at h
  split at h
  · next faulty =>
    cases h
    unfold replaceMarked at faulty
    split at faulty
    · cases faulty
    · exact replaceAll_eq_error faulty
  · cases h

/-- Why a run failed, if it did. -/
def failure? : Except Failure α → Option Failure
  | .ok _ => none
  | .error failure => some failure

/-- How resolving ends over the includes it has by then, and what it has asked for in vain. -/
inductive Ending (settings : Settings) (engine : Option Engine) (store : Store) :
    Option Failure → List Text → Prop
  | resolved : Ending settings engine store none []
  | unhosted : engine = none → store.include? key = none →
      Ending settings engine store (some { cause := .includeNotFound key (url settings key) }) []
  | refused : e ∈ engine → store.include? key = none →
      e.load (url settings key) = .error reason →
      Ending settings engine store (some (reason.inShader key)) [url settings key]
  | malformed : store.include? key = some content →
      Ending settings engine store
        (some { cause := .invalidReplacement pattern reason, shader := some key }) []
  | tooDeep : Ending settings engine store (some { cause := .includeDepthExceeded maxDepth }) []

/-- What a pass has asked for when it ends so. -/
def Pass.Asked (settings : Settings) (engine : Option Engine) (store : Store) :
    Pass → List Text → Prop
  | .complete _, asked | .nested _, asked => asked = []
  | .fetched _ key _, asked => asked = [url settings key]
  | .failed failure, asked => Ending settings engine store (some failure) asked

theorem Pass.Asked.after {store : Store} {p : Pass} {asked : List Text}
    (h : p.Asked settings engine store asked) (before : Text) (again : Bool) :
    (p.after before again).Asked settings engine store asked := by
  cases p with
  | complete text => cases again <;> exact h
  | nested text => exact h
  | fetched text key content => exact h
  | failed failure => exact h

variable (settings engine) in
theorem asked_fetch {store : Store} {key : Text} (missing : store.include? key = none) :
    match (fetch settings engine key).value with
    | .ok _ => (fetch settings engine key).loads = [url settings key]
    | .error failure =>
      Ending settings engine store (some failure) (fetch settings engine key).loads := by
  cases engine with
  | none => exact .unhosted rfl missing
  | some e =>
    cases loaded : e.load (url settings key) with
    | ok text => simp [fetch, loaded, Except.mapError]
    | error reason =>
      simpa [fetch, loaded, Except.mapError] using Ending.refused rfl missing loaded

theorem asked_runPass (store : Store) (pieces : List Piece) (tail : Text) :
    (runPass settings engine store pieces tail).value.Asked settings engine store
      (runPass settings engine store pieces tail).loads := by
  induction pieces with
  | nil => rfl
  | cons piece rest ih =>
    obtain ⟨before, d⟩ := piece
    simp only [runPass]
    cases stored : store.include? (d.key settings.supportsUniformBuffers) with
    | none =>
      have asked := asked_fetch settings engine stored
      cases fetched : (fetch settings engine (d.key settings.supportsUniformBuffers)).value with
      | ok content =>
        rw [fetched] at asked
        simpa [fetched, Pass.Asked] using asked
      | error failure =>
        rw [fetched] at asked
        simpa [fetched, Pass.Asked] using asked
    | some content =>
      simp only [Traced.value_bind, Traced.loads_bind, Traced.loads_trace, Directive.loads_expand,
        List.nil_append]
      cases expanded : (d.expand settings content).value with
      | ok text => simpa using ih.after (before ++ text) (hasDirective text)
      | error failure =>
        obtain ⟨pattern, reason, rfl⟩ := Directive.expand_eq_error expanded
        exact .malformed stored

/-- Includes fetched one after the other: each was missing at that moment, and it was stored with
the text that the engine gave for its location. -/
inductive Fetches (settings : Settings) (engine : Option Engine) :
    Store → List Text → Store → Prop
  | nil : Fetches settings engine store [] store
  | cons : store.include? key = none → e ∈ engine → e.load (url settings key) = .ok text →
      Fetches settings engine (store.setInclude key text) keys final →
      Fetches settings engine store (key :: keys) final

section Fetches

variable {store final : Store} {keys : List Text}

theorem Fetches.include?_iff (h : Fetches settings engine store keys final) {key text : Text} :
    final.include? key = some text ↔ store.include? key = some text ∨
      key ∈ keys ∧ ∃ e ∈ engine, e.load (url settings key) = .ok text := by
  induction h with
  | nil => simp
  | cons missing given loaded _ ih =>
    rw [ih, Store.include?_setInclude, List.mem_cons]
    split
    · next same =>
      subst same
      constructor
      · rintro (content | ⟨-, origin⟩)
        · cases content
          exact .inr ⟨.inl rfl, _, given, loaded⟩
        · exact .inr ⟨.inl rfl, origin⟩
      · rintro (before | ⟨-, e, given', loaded'⟩)
        · rw [missing] at before
          cases before
        · rw [Option.mem_unique given' given, loaded] at loaded'
          cases loaded'
          exact .inl rfl
    · next other => simp [other]

theorem Fetches.within (h : Fetches settings engine store keys final) : Within store final :=
  fun _ _ stored => h.include?_iff.mpr (.inl stored)

theorem Fetches.missing (h : Fetches settings engine store keys final) {key : Text}
    (mem : key ∈ keys) : store.include? key = none := by
  induction h with
  | nil => cases mem
  | cons missing _ _ _ ih =>
    rcases List.mem_cons.mp mem with rfl | mem
    · exact missing
    · have later := ih mem
      rw [Store.include?_setInclude] at later
      split at later
      · cases later
      · exact later

theorem Fetches.stored (h : Fetches settings engine store keys final) {key : Text}
    (mem : key ∈ keys) : ∃ text, final.include? key = some text := by
  induction h with
  | nil => cases mem
  | cons _ _ _ fetches ih =>
    rcases List.mem_cons.mp mem with rfl | mem
    · exact ⟨_, fetches.within _ _ (by rw [Store.include?_setInclude, if_pos rfl])⟩
    · exact ih mem

theorem Fetches.nodup (h : Fetches settings engine store keys final) : keys.Nodup := by
  induction h with
  | nil => exact .nil
  | cons _ _ _ fetches ih =>
    refine List.nodup_cons.mpr ⟨fun again => ?_, ih⟩
    have missing := fetches.missing again
    simp at missing

theorem Ending.nodup {failed : Option Failure} {vain : List Text}
    (h : Ending settings engine final failed vain)
    (fetches : Fetches settings engine store keys final) :
    (keys.map (url settings) ++ vain).Nodup := by
  have fetched : (keys.map (url settings)).Nodup := fetches.nodup.map fun _ _ => url_inj
  cases h with
  | @refused e key reason given missing refusal =>
    refine fetched.append (List.nodup_singleton _) ?_
    rw [List.disjoint_singleton, List.mem_map]
    rintro ⟨k, mem, same⟩
    obtain ⟨text, stored⟩ := fetches.stored mem
    rw [url_inj same, missing] at stored
    cases stored
  | _ => simpa using fetched

end Fetches

variable (settings engine)

theorem loads_turn (r : Round) :
    (r.turn settings engine).loads = (pass settings engine r.store r.source).loads := by
  simp only [Round.turn, Traced.loads_bind]
  cases (pass settings engine r.store r.source).value with
  | nested text => cases r.left <;> simp
  | _ => simp

theorem asked_pass (store : Store) (source : Text) :
    (pass settings engine store source).value.Asked settings engine store
      (pass settings engine store source).loads :=
  asked_runPass ..

/-- Resolving asks for the includes that it stores, in that order, and at most for one more. -/
theorem Round.fetches_resolve (r : Round) : ∃ keys asked,
    Fetches settings engine r.store keys (r.resolve settings engine).value.2 ∧
    (r.resolve settings engine).loads = keys.map (url settings) ++ asked ∧
    Ending settings engine (r.resolve settings engine).value.2
      (failure? (r.resolve settings engine).value.1) asked := by
  induction r using Round.induction settings engine with
  | step r ih =>
    have asked := asked_pass settings engine r.store r.source
    rw [← loads_turn] at asked
    cases h : (r.turn settings engine).value with
    | done result =>
      refine ⟨[], (r.turn settings engine).loads, ?_⟩
      rw [r.resolve_of_done h]
      refine ⟨.nil, rfl, ?_⟩
      rcases turn_eq_done h with ⟨text, found, rfl⟩ | ⟨failure, found, rfl⟩ | ⟨text, found, -, rfl⟩
      all_goals rw [found] at asked
      · exact asked ▸ .resolved
      · exact asked
      · exact asked ▸ .tooDeep
    | next r' =>
      -- A round that fetches puts its key in front; one that only nests asks for nothing.
      obtain ⟨keys, vain, fetches, loads, ending⟩ := ih r' h
      rw [r.resolve_of_next h, Traced.loads_behind, Traced.value_behind, loads]
      rcases turn_eq_next h with ⟨text, key, content, found, rfl⟩ | ⟨left, text, found, -, rfl⟩
      · obtain ⟨missing, e, given, loaded⟩ := runPass_eq_fetched found
        rw [found] at asked
        refine ⟨key :: keys, vain, .cons missing given loaded fetches, ?_, ending⟩
        rw [show (r.turn settings engine).loads = [url settings key] from asked]
        simp
      · rw [found] at asked
        refine ⟨keys, vain, fetches, ?_, ending⟩
        rw [show (r.turn settings engine).loads = [] from asked]
        simp

/-- What a run with these outcomes has done to a store when it fetched these includes. -/
structure Account (settings : Settings) (engine : Option Engine) (store : Store)
    (keys : List Text) (failed : Option Failure) (final : Store) (loads : List Text) : Prop where
  kept : Within store final
  entries : ∀ key text, final.include? key = some text ↔ store.include? key = some text ∨
    key ∈ keys ∧ ∃ e ∈ engine, e.load (url settings key) = .ok text
  fetches : Fetches settings engine store keys final
  asked : ∃ vain, loads = keys.map (url settings) ++ vain ∧
    Ending settings engine final failed vain
  once : loads.Nodup

theorem account_resolve (store : Store) (source : Text) : ∃ keys, Account settings engine store keys
      (failure? (resolve settings engine store source).value.1)
      (resolve settings engine store source).value.2
      (resolve settings engine store source).loads := by
  obtain ⟨keys, vain, fetches, loads, ending⟩ :=
    Round.fetches_resolve settings engine ⟨maxDepth, store, source⟩
  refine ⟨keys, fetches.within, fun key text => fetches.include?_iff, fetches,
    ⟨vain, loads, ending⟩, ?_⟩
  exact loads ▸ ending.nodup fetches

end ShaderPrep.Include
