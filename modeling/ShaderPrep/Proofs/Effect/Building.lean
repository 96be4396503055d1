import ShaderPrep.Effect.Compiler

/-! Compilations step by step. A step that fails ends a compilation, so that its result is read off
one step after the other; without a target, a stage is its resolved source behind a precision. -/
namespace ShaderPrep

section Steps
variable {σ α β : Type}

theorem value_run_bind (x : ExceptT Failure (Run σ) α) (f : α → ExceptT Failure (Run σ) β)
    (s : Session σ) : ((x >>= f).run.run s).value =
      match (x.run.run s).value with
      | (.ok a, s') => ((f a).run.run s').value
      | (.error failure, s') => (.error failure, s') := by
  change (ExceptT.bindCont f (x.run.run s).value.1 (x.run.run s).value.2).value = _
  cases (x.run.run s).value with
  | mk result s' => cases result <;> rfl

end Steps

section Plain
variable {σ : Type} {o : Options σ} {engine : Option Engine} {s : Session σ} {text code : Text}
  {store : Store}

theorem Options.value_process_plain (target : o.target = none) (hook : o.afterIncludes = none)
    (resolved : (Include.resolve o.toSettings engine s.store text).value = (.ok code, store)) :
    ((o.process engine text).run s).value =
      (.ok ⟨o.withPrecision s.lines.target code, code⟩, { s with store }) := by
  simp only [process, runOn, withIncludes, askTarget, target, hook, resolveStored, convertStage]
  simp [resolved, Except.map]

theorem Plan.value_within_plain (target : o.target = none) (hook : o.afterIncludes = none)
    (resolved : (Include.resolve o.toSettings engine s.store text).value = (.ok code, store))
    (source : Source) :
    ∃ processed : Processed, processed.codeWithIncludes = code ∧
      ((Plan.within source (o.process engine text)).run.run s).value =
        (.ok processed, { s with store }) := by
  have value := Options.value_process_plain target hook resolved
  refine ⟨⟨o.withPrecision s.lines.target code, code⟩, rfl, ?_⟩
  change ((((o.process engine text).run s).value.1.mapError fun failure : Failure =>
    failure.inShader source.label), ((o.process engine text).run s).value.2) = _
  rw [value]
  rfl

/-- A name that is stored is not fetched. -/
theorem Plan.value_sourceText_stored {plan : Plan σ} {stage : Stage} {name : Text}
    (h : s.store.shader? (storeKey stage name) = some text) :
    ((plan.sourceText stage (.named name)).run.run s).value = (.ok text, s) := by
  have get_ : ((get : ExceptT Failure (Run σ) (Session σ)).run.run s).value = (.ok s, s) := rfl
  simp only [sourceText, value_run_bind, get_, h]
  rfl

/-- Without a target, an effect is as good as its stages once they are resolved. -/
theorem Plan.value_buildEffect_plain {plan : Plan σ} {defines : List Text}
    {vertex fragment : Source} (target : plan.options.target = none)
    (hook : plan.options.afterIncludes = none) {v f v' f' : Text} {store' : Store}
    (vertexText : ((plan.sourceText .vertex vertex).run.run s).value = (.ok v, s))
    (fragmentText : ((plan.sourceText .fragment fragment).run.run s).value = (.ok f, s))
    (first : (Include.resolve { plan.optionsFor defines with isFragment := false }.toSettings
      (some plan.engine) s.store v).value = (.ok v', store))
    (last : (Include.resolve { plan.optionsFor defines with isFragment := true }.toSettings
      (some plan.engine) store f).value = (.ok f', store')) :
    ∃ effect : Effect, effect.rawVertex = v' ∧
      ((plan.buildEffect vertex fragment defines).run.run s).value =
        (.ok effect, { s with store := store' }) := by
  have none_ : (plan.optionsFor defines).target = none := target
  have setUp (s : Session σ) : (((plan.optionsFor defines).setUp :
      ExceptT Failure (Run σ) Unit).run.run s).value = (.ok (), s) := by
    simp only [Options.setUp, none_]
    rfl
  have finish (v f : Text) (s : Session σ) : (((plan.optionsFor defines).finish v f :
      ExceptT Failure (Run σ) (Text × Text)).run.run s).value = (.ok (v, f), s) := by
    simp only [Options.finish, Options.askTarget, none_]
    rfl
  obtain ⟨p, raw, vertexStage⟩ := value_within_plain
    (o := { plan.optionsFor defines with isFragment := false }) target hook first vertex
  obtain ⟨q, -, fragmentStage⟩ := value_within_plain
    (o := { plan.optionsFor defines with isFragment := true }) (s := { s with store }) target hook
    last fragment
  refine ⟨⟨Effect.keyOf vertex fragment defines, p.code, q.code, p.codeWithIncludes,
    q.codeWithIncludes⟩, raw, ?_⟩
  simp only [buildEffect, value_run_bind, vertexText, fragmentText, setUp, vertexStage,
    fragmentStage, finish]
  rfl

end Plain
end ShaderPrep
