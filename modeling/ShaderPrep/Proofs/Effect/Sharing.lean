import ShaderPrep.Proofs.Effect.Building
import ShaderPrep.Proofs.Effect.Requests
import ShaderPrep.Proofs.Include.Depth

/-! What a compiler shares between requests. An answer is always one that a compiler with empty
caches gives, but to the first request of its slot, on the store of that time. -/
namespace ShaderPrep

namespace Compiler
variable {σ : Type} {c : Compiler σ} {slot : Slot} {p : Product} (plan : Plan σ)

theorem cached?_serve_of_ne (r : Request) (other : r.slot ≠ slot) :
    (c.serve plan r).2.cached? slot = c.cached? slot := by
  cases held : c.cached? r.slot with
  | some p => rw [serve_of_cached plan held]
  | none =>
    rw [(serve_of_not_cached plan held).2, if_neg (Ne.symm other)]

/-- What is in a slot stays there. -/
theorem cached?_serve (h : c.cached? slot = some p) (r : Request) :
    (c.serve plan r).2.cached? slot = some p := by
  by_cases own : r.slot = slot
  · rw [serve_of_cached plan (own ▸ h)]
    exact h
  · rw [cached?_serve_of_ne plan r own, h]

theorem cached?_after (h : c.cached? slot = some p) (requests : List Request) :
    (c.after plan requests).cached? slot = some p := by
  induction requests generalizing c with
  | nil => exact h
  | cons r requests ih => exact ih (cached?_serve plan h r)

/-- No request for the slot compiles. -/
def Fails (c : Compiler σ) (slot : Slot) : List Request → Prop
  | [] => True
  | r :: requests =>
    (r.slot = slot → ∃ failure, c.fresh plan r = .error failure) ∧
      (c.serve plan r).2.Fails slot requests

/-- Among the requests there is a first one for the slot that compiles, and this is its product. -/
def Fills (c : Compiler σ) (slot : Slot) (requests : List Request) (p : Product) : Prop :=
  ∃ before q behind, requests = before ++ q :: behind ∧ q.slot = slot ∧
    (c.after plan before).fresh plan q = .ok p ∧ c.Fails plan slot before

variable {plan} in
theorem Fills.cons {r : Request} {requests : List Request}
    (failed : r.slot = slot → ∃ failure, c.fresh plan r = .error failure)
    (h : (c.serve plan r).2.Fills plan slot requests p) : c.Fills plan slot (r :: requests) p := by
  obtain ⟨before, q, behind, rfl, own, fresh, fails⟩ := h
  exact ⟨r :: before, q, behind, rfl, own, fresh, failed, fails⟩

/-- A slot that is empty at first holds the product of the first request that fills it. -/
theorem cached?_after_cases (h : c.cached? slot = none) (requests : List Request) :
    ((c.after plan requests).cached? slot = none ∧ c.Fails plan slot requests) ∨
      ∃ p, (c.after plan requests).cached? slot = some p ∧ c.Fills plan slot requests p := by
  induction requests generalizing c with
  | nil => exact .inl ⟨h, trivial⟩
  | cons r requests ih =>
    -- Nothing changes for the slot if the first request is for another or fails.
    have step (failed : r.slot = slot → ∃ failure, c.fresh plan r = .error failure)
        (empty : (c.serve plan r).2.cached? slot = none) :
        ((c.after plan (r :: requests)).cached? slot = none ∧
          c.Fails plan slot (r :: requests)) ∨
        ∃ p, (c.after plan (r :: requests)).cached? slot = some p ∧
          c.Fills plan slot (r :: requests) p := by
      rcases ih empty with ⟨still, fails⟩ | ⟨p, held, fills⟩
      · exact .inl ⟨still, failed, fails⟩
      · exact .inr ⟨p, held, fills.cons failed⟩
    by_cases own : r.slot = slot
    · subst own
      obtain ⟨-, caches⟩ := serve_of_not_cached plan h
      have here := caches r.slot
      rw [if_pos rfl] at here
      cases fresh : c.fresh plan r with
      | error failure =>
        rw [fresh] at here
        exact step (fun _ => ⟨failure, fresh⟩) here
      | ok p =>
        rw [fresh] at here
        exact .inr ⟨p, cached?_after plan here requests, [], r, requests, rfl, rfl, fresh, trivial⟩
    · refine step (fun same => absurd same own) ?_
      rw [cached?_serve_of_ne plan r own, h]

end Compiler

/-- The same request with the names of its sources taken for their texts. -/
def Request.asCode : Request → Request
  | effect vertex fragment defines => .effect (.code vertex.label) (.code fragment.label) defines
  | compute source defines => .compute (.code source.label) defines

/-- No source or define has what the parts of a key are joined with. -/
def Request.Separable : Request → Prop
  | effect vertex fragment defines =>
    '+' ∉ vertex.label ∧ '@' ∉ fragment.label ∧ ∀ d ∈ defines, d ≠ [] ∧ '\n' ∉ d
  | compute source defines => '@' ∉ source.label ∧ ∀ d ∈ defines, d ≠ [] ∧ '\n' ∉ d

theorem join_ne_nil {d : Text} (h : d ≠ []) (rest : List Text) :
    Text.join ['\n'] (d :: rest) ≠ [] := by
  cases rest with
  | nil =>
    rw [Text.join, List.intercalate_singleton]
    exact h
  | cons e rest =>
    rw [Text.join, List.intercalate_cons_cons, List.append_assoc]
    exact List.append_ne_nil_of_left_ne_nil h _

theorem join_inj {first last : List Text} (h : ∀ d ∈ first, d ≠ [] ∧ '\n' ∉ d)
    (h' : ∀ d ∈ last, d ≠ [] ∧ '\n' ∉ d) (same : Text.join ['\n'] first = Text.join ['\n'] last) :
    first = last := by
  cases first with
  | nil =>
    cases last with
    | nil => rfl
    | cons d rest => exact absurd same.symm (join_ne_nil (h' d List.mem_cons_self).1 rest)
  | cons d rest =>
    cases last with
    | nil => exact absurd same (join_ne_nil (h d List.mem_cons_self).1 rest)
    | cons d' rest' =>
      calc d :: rest
          = (Text.join ['\n'] (d :: rest)).splitOn '\n' :=
            (List.splitOn_intercalate '\n' (fun l mem => (h l mem).2) (by simp)).symm
        _ = (Text.join ['\n'] (d' :: rest')).splitOn '\n' := by rw [same]
        _ = d' :: rest' :=
            List.splitOn_intercalate '\n' (fun l mem => (h' l mem).2) (by simp)

/-- Separable requests of one slot differ at most in what is a name and what is code. -/
theorem Request.Separable.slot_inj {r q : Request} (h : r.Separable) (h' : q.Separable)
    (same : r.slot = q.slot) : r.asCode = q.asCode := by
  match r, q, h, h' with
  | .effect v f defines, .effect v' f' defines', ⟨hv, hf, hd⟩, ⟨hv', hf', hd'⟩ =>
    have key : v.label ++ '+' :: (f.label ++ '@' :: Text.join ['\n'] defines) =
        v'.label ++ '+' :: (f'.label ++ '@' :: Text.join ['\n'] defines') := by
      have key := Slot.effect.inj same
      simpa [Effect.keyOf, definesKey] using key
    obtain ⟨vertex, behind⟩ := Text.append_cons_inj hv hv' key
    obtain ⟨fragment, joined⟩ := Text.append_cons_inj hf hf' behind
    rw [asCode, asCode, vertex, fragment, join_inj hd hd' joined]
  | .compute s defines, .compute s' defines', ⟨hs, hd⟩, ⟨hs', hd'⟩ =>
    have key : s.label ++ '@' :: Text.join ['\n'] defines =
        s'.label ++ '@' :: Text.join ['\n'] defines' := by
      have key := Slot.compute.inj same
      simpa [ComputeShader.keyOf, definesKey] using key
    obtain ⟨source, joined⟩ := Text.append_cons_inj hs hs' key
    rw [asCode, asCode, source, join_inj hd hd' joined]
  | .effect .., .compute .., _, _ => exact nomatch same
  | .compute .., .effect .., _, _ => exact nomatch same

namespace Compiler
variable {σ : Type}

/-- An answer is what a compiler with empty caches gives to a request for the same slot: the
first that compiles, on the store as it is then, or else the request itself. If the two requests
and the two stores are the same, it is the right answer; separable requests of one slot differ at
most in what is a name and what is code. -/
theorem serve_eq_fresh (plan : Plan σ) (session : Session σ) (earlier : List Request)
    (r : Request) :
    let start : Compiler σ := { session }
    let answer := ((start.after plan earlier).serve plan r).1
    ∃ before q behind, earlier ++ [r] = before ++ q :: behind ∧ q.slot = r.slot ∧
      answer = (start.after plan before).fresh plan q ∧
      start.Fails plan r.slot before ∧
      (behind ≠ [] → ∃ product, (start.after plan before).fresh plan q = .ok product) ∧
      (q.Separable → r.Separable → q.asCode = r.asCode) ∧
      (q = r → (start.after plan before).session.store = (start.after plan earlier).session.store →
        answer = (start.after plan earlier).fresh plan r) := by
  intro start answer
  have empty : start.cached? r.slot = none := by
    cases r.slot <;> rfl
  rcases cached?_after_cases plan empty earlier with ⟨absent, fails⟩ | ⟨p, held, fills⟩
  · have here : answer = (start.after plan earlier).fresh plan r :=
      (serve_of_not_cached plan absent).1
    refine ⟨earlier, r, [], rfl, rfl, here, fails, ?_, fun _ _ => rfl, fun _ _ => here⟩
    exact fun no => absurd rfl no
  · obtain ⟨before, q, behind, rfl, own, fresh, fails⟩ := fills
    have there : answer = (start.after plan before).fresh plan q := by
      rw [fresh]
      exact congrArg Prod.fst (serve_of_cached plan held)
    refine ⟨before, q, behind ++ [r], by simp, own, there, fails, fun _ => ⟨p, fresh⟩, ?_, ?_⟩
    · exact fun hq hr => hq.slot_inj hr own
    · rintro rfl same
      exact there.trans (fresh_congr plan same q)

/-- What a request has made that was the first of its slot is the answer to the next one. -/
theorem serve_after_singleton (plan : Plan σ) {c : Compiler σ} {q r : Request} {p : Product}
    (absent : c.cached? q.slot = none) (made : c.fresh plan q = .ok p) (own : r.slot = q.slot) :
    ((c.after plan [q]).serve plan r).1 = .ok p := by
  have caches := (serve_of_not_cached plan absent).2 q.slot
  rw [if_pos rfl, made] at caches
  have held : (c.after plan [q]).cached? r.slot = some p := own ▸ caches
  rw [serve_of_cached plan held]

section Plain
variable (plan : Plan σ) (defines : List Text) {c : Compiler σ} {x y : Source}
  {v f v' f' : Text} {store store' : Store}

/-- An effect of sources at hand without a target, and the store behind it. -/
theorem serve_plain (target : plan.options.target = none)
    (hook : plan.options.afterIncludes = none)
    (vertexText : ((plan.sourceText .vertex x).run.run
      { c.session with lines := plan.initial }).value =
        (.ok v, { c.session with lines := plan.initial }))
    (fragmentText : ((plan.sourceText .fragment y).run.run
      { c.session with lines := plan.initial }).value =
        (.ok f, { c.session with lines := plan.initial }))
    (first : (Include.resolve { plan.optionsFor defines with isFragment := false }.toSettings
      (some plan.engine) c.session.store v).value = (.ok v', store))
    (last : (Include.resolve { plan.optionsFor defines with isFragment := true }.toSettings
      (some plan.engine) store f).value = (.ok f', store')) :
    ∃ effect : Effect, effect.rawVertex = v' ∧
      c.fresh plan (.effect x y defines) = .ok (.effect effect) ∧
      (c.cached? (.effect (Effect.keyOf x y defines)) = none →
        (c.serve plan (.effect x y defines)).2.session.store = store') := by
  obtain ⟨effect, raw, built⟩ := Plan.value_buildEffect_plain target hook vertexText fragmentText
    first last
  have made (c' : Compiler σ) (same : c'.session = c.session) :
      (c'.build plan (plan.buildEffect x y defines)).value =
        (.ok effect, { c' with
          session := { store := store', lines := plan.initial }, builds := c'.builds + 1 }) := by
    change (fun result => (result.1, { c' with session := result.2, builds := c'.builds + 1 }))
      ((plan.buildEffect x y defines).run.run
        { c'.session with lines := plan.initial }).value = _
    rw [same, built]
  refine ⟨effect, raw, ?_, fun empty => ?_⟩
  · rw [fresh_effect, made c.clear rfl]
    rfl
  · have absent := Option.map_eq_none_iff.mp empty
    simp only [serve, Compiler.effect, absent, Traced.value_bind, made c rfl]
    rfl

end Plain

/-- Two requests of one key that differ, a name that is the text of other code, and a request
that would be compiled otherwise once an include is stored: each time the answer is what was
compiled first. -/
theorem serve_ne_fresh :
    let files : List (Text × Text) := [("ShadersInclude/b.fx".toList, ['B'])]
    let plan : Plan Unit := {
      engine := { load := Engine.loadFrom files [], finite := Engine.loadFrom_finite files [] }
      options := {}
      initial := { target := () } }
    let store := ((({} : Store).setInclude ['a'] "#include\t<c>".toList).setInclude
      ['c'] ['C']).setShader (Plan.storeKey .vertex ['n']) ['N']
    let start : Compiler Unit := { session := { store, lines := plan.initial } }
    let first := Request.effect (.code "a+b".toList) (.code ['c']) []
    let second := Request.effect (.code ['a']) (.code "b+c".toList) []
    let code := Request.effect (.code ['n']) (.code ['f']) []
    let named := Request.effect (.named ['n']) (.code ['f']) []
    let nested := Request.effect (.code "#include<a>\n#include<b>".toList) (.code ['f']) []
    (∃ e e' : Effect, ((start.after plan [first]).serve plan second).1 = .ok (.effect e) ∧
      (start.after plan [first]).fresh plan second = .ok (.effect e') ∧
      e.rawVertex = "a+b".toList ∧ e'.rawVertex = ['a']) ∧
    (∃ e e' : Effect, ((start.after plan [code]).serve plan named).1 = .ok (.effect e) ∧
      (start.after plan [code]).fresh plan named = .ok (.effect e') ∧
      e.rawVertex = ['n'] ∧ e'.rawVertex = ['N']) ∧
    (∃ e e' : Effect, ((start.after plan [nested]).serve plan nested).1 = .ok (.effect e) ∧
      (start.after plan [nested]).fresh plan nested = .ok (.effect e') ∧
      e.rawVertex = "C\nB".toList ∧ e'.rawVertex = "#include\t<c>\nB".toList) := by
  intro files plan store start first second code named nested
  have empty (q : Request) : start.cached? q.slot = none := by
    cases q.slot <;> rfl
  refine ⟨?_, ?_, ?_⟩
  · obtain ⟨e, raw, fresh, -⟩ := serve_plain plan [] (c := start) (x := .code "a+b".toList)
      (y := .code ['c']) rfl rfl rfl rfl (Include.value_resolveWithin_complete _ rfl)
      (Include.value_resolveWithin_complete _ rfl)
    obtain ⟨e', raw', fresh', -⟩ := serve_plain plan [] (c := start.after plan [first])
      (x := .code ['a']) (y := .code "b+c".toList) rfl rfl rfl rfl
      (Include.value_resolveWithin_complete _ rfl) (Include.value_resolveWithin_complete _ rfl)
    exact ⟨e, e', serve_after_singleton plan (empty first) fresh rfl, fresh', raw, raw'⟩
  · obtain ⟨e, raw, fresh, stored⟩ := serve_plain plan [] (c := start) (x := .code ['n'])
      (y := .code ['f']) rfl rfl rfl rfl (Include.value_resolveWithin_complete _ rfl)
      (Include.value_resolveWithin_complete _ rfl)
    have left : (start.after plan [code]).session.store = store := stored rfl
    have text : (start.after plan [code]).session.store.shader? (Plan.storeKey .vertex ['n']) =
        some ['N'] := by
      rw [left]
      exact (Store.shader?_setShader ..).trans (if_pos rfl)
    obtain ⟨e', raw', fresh', -⟩ := serve_plain plan [] (c := start.after plan [code])
      (y := .code ['f']) rfl rfl (Plan.value_sourceText_stored text) rfl
      (Include.value_resolveWithin_complete _ rfl) (Include.value_resolveWithin_complete _ rfl)
    exact ⟨e, e', serve_after_singleton plan (empty code) fresh rfl, fresh', raw, raw'⟩
  · have fetching : (Include.pass {} (some plan.engine) store
        "#include<a>\n#include<b>".toList).value =
        .fetched "#include\t<c>\n#include<b>".toList ['b'] ['B'] := rfl
    have cold : (Include.resolve {} (some plan.engine) store
        "#include<a>\n#include<b>".toList).value =
        (.ok "C\nB".toList, store.setInclude ['b'] ['B']) :=
      (Include.value_resolveWithin_fetched _ fetching).trans
        (Include.value_resolveWithin_complete _ rfl)
    have warm : (Include.resolve {} (some plan.engine) (store.setInclude ['b'] ['B'])
        "#include<a>\n#include<b>".toList).value =
        (.ok "#include\t<c>\nB".toList, store.setInclude ['b'] ['B']) :=
      Include.value_resolveWithin_complete _ rfl
    obtain ⟨e, raw, fresh, stored⟩ := serve_plain plan [] (c := start)
      (x := .code "#include<a>\n#include<b>".toList) (y := .code ['f']) rfl rfl rfl rfl cold
      (Include.value_resolveWithin_complete _ rfl)
    have left : (start.after plan [nested]).session.store = store.setInclude ['b'] ['B'] :=
      stored rfl
    obtain ⟨e', raw', fresh', -⟩ := serve_plain plan [] (c := start.after plan [nested])
      (x := .code "#include<a>\n#include<b>".toList) (y := .code ['f']) rfl rfl rfl rfl
      (left ▸ warm) (Include.value_resolveWithin_complete _ rfl)
    exact ⟨e, e', serve_after_singleton plan (empty nested) fresh rfl, fresh', raw, raw'⟩

end Compiler
end ShaderPrep
