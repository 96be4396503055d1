import ShaderPrep.Proofs.Include.Depth
import ShaderPrep.Proofs.Processing.Replay
import ShaderPrep.Proofs.Target.Hookless
import ShaderPrep.Target.WebGl2

/-! Lists of defines that are read alike. Symbols see an entry only as it is read, and so does all
of processing but one place: what opens a vertex stage for the second WebGL version asks for an
entry by its spelling. -/
namespace ShaderPrep

namespace Session
variable {σ α α' β β' : Type} {T : α → α' → Prop} {U : β → β' → Prop}

/-- From every session both cause the same events and come to the same session, with results that
are related. -/
def Beside (T : α → α' → Prop) (x : Run σ α) (y : Run σ α') : Prop :=
  ∀ s, T (x s).value.1 (y s).value.1 ∧ (x s).events = (y s).events ∧
    (x s).value.2 = (y s).value.2

namespace Beside

theorem refl (x : Run σ α) : Beside Eq x x := fun _ => ⟨rfl, rfl, rfl⟩

theorem eq {x y : Run σ α} (h : Beside Eq x y) : x = y := by
  funext s
  obtain ⟨value, events, left⟩ := h s
  have values : (x s).value = (y s).value := Prod.ext value left
  cases hx : x s with
  | mk v e => cases hy : y s with
    | mk v' e' =>
      rw [hx, hy] at values events
      exact congrArg₂ Traced.mk values events

theorem mono {T' : α → α' → Prop} {x : Run σ α} {y : Run σ α'} (h : Beside T x y)
    (weaker : ∀ a b, T a b → T' a b) : Beside T' x y :=
  fun s => ⟨weaker _ _ (h s).1, (h s).2⟩

theorem bind {x : Run σ α} {y : Run σ α'} {f : α → Run σ β} {g : α' → Run σ β'}
    (first : Beside T x y) (next : ∀ a b, T a b → Beside U (f a) (g b)) :
    Beside U (x >>= f) (y >>= g) := by
  intro s
  obtain ⟨value, events, left⟩ := first s
  obtain ⟨value', events', left'⟩ := next _ _ value (y s).value.2
  rw [events_bind, events_bind, events, left]
  change U (f (x s).value.1 (x s).value.2).value.1 _ ∧ _ = _ ∧
    (f (x s).value.1 (x s).value.2).value.2 = _
  rw [left]
  exact ⟨value', congrArg _ events', left'⟩

/-- Work that is done alike first. -/
theorem after (x : Run σ α) {f g : α → Run σ β} {U : β → β → Prop}
    (next : ∀ a, Beside U (f a) (g a)) : Beside U (x >>= f) (x >>= g) :=
  (refl x).bind fun a _ same => same ▸ next a

theorem pure {a : α} {b : α'} (related : T a b) :
    Beside T (Pure.pure a : Run σ α) (Pure.pure b) :=
  fun _ => ⟨related, rfl, rfl⟩

end Beside
end Session

open Session (Beside)

theorem Include.runPass_withDefines (settings : Settings) (defines : List Text)
    (engine : Option Engine) (store : Store) (pieces : List Include.Piece) (tail : Text) :
    Include.runPass { settings with defines } engine store pieces tail =
      Include.runPass settings engine store pieces tail := by
  induction pieces with
  | nil => rfl
  | cons piece rest ih =>
    obtain ⟨before, d⟩ := piece
    have expand (content : Text) :
        d.expand { settings with defines } content = d.expand settings content := rfl
    have fetch (key : Text) :
        fetch { settings with defines } engine key = fetch settings engine key := rfl
    simp only [runPass, ih, expand, fetch]

/-- Resolving includes does not look at the list of defines. -/
theorem Include.Round.resolve_withDefines (settings : Settings) (defines : List Text)
    (engine : Option Engine) (r : Include.Round) :
    r.resolve { settings with defines } engine = r.resolve settings engine := by
  induction r using Include.Round.induction settings engine with
  | step r ih =>
    have turn : r.turn { settings with defines } engine = r.turn settings engine := by
      simp only [Include.Round.turn, Include.pass, Include.runPass_withDefines]
    rw [resolve_eq, resolve_eq, turn]
    cases h : (r.turn settings engine).value with
    | done result => rfl
    | next r' => exact congrArg (Traced.behind _) (ih r' h)

/-- Lists that are read alike make one table of symbols. -/
theorem Symbols.ofEntries_congr {defines defines' : List Text}
    (same : defines.map Define.ofEntry = defines'.map Define.ofEntry) :
    ofEntries defines = ofEntries defines' := by
  have read (entries : List Text) : ofEntries entries =
      (entries.map Define.ofEntry).foldl (fun table d => table.insert d.name d.value) ∅ := by
    rw [ofEntries, List.foldl_map]
  rw [read, read, same]

namespace Target

/-- The targets that come with the program. -/
inductive Standard {σ : Type} : Option (Target σ) → Prop
  | none : Standard none
  | plain (language : Language) : Standard (some (.plain language))
  | webGl2 : Standard (some WebGl2.target)

/-- What a list of defines puts in front of a vertex stage. -/
def WebGl2.header (defines : List Text) : Text :=
  if defines.contains "#define MULTIVIEW".toList then multiviewHeader else []

theorem WebGl2.convertVertex_eq (code : Text) (defines : List Text) :
    convertVertex code defines = header defines ++ convertVertex code [] := by
  simp only [convertVertex, header]
  split <;> simp

theorem WebGl2.header_eq_iff {defines defines' : List Text} :
    header defines = header defines' ↔
      ("#define MULTIVIEW".toList ∈ defines ↔ "#define MULTIVIEW".toList ∈ defines') := by
  have filled : multiviewHeader ≠ [] := by decide
  simp only [header, List.contains_iff_mem]
  generalize "#define MULTIVIEW".toList = mark
  split <;> split <;> simp [*, filled.symm]

end Target

namespace Options
variable {σ : Type}

/-- The same run with another list of defines. -/
def withDefines (o : Options σ) (defines : List Text) : Options σ := { o with defines }

/-- What the host makes of converted code. -/
def inlined (engine : Option Engine) (isFragment : Bool) (code : Text) : Text :=
  match engine.bind (·.inlining) with
  | none => code
  | some inline => inline code isFragment

/-- The same vertex stage behind what either list puts in front of it. -/
def Headed (engine : Option Engine) (defines defines' : List Text) (code code' : Text) : Prop :=
  ∃ body, code = inlined engine false (Target.WebGl2.header defines ++ body) ∧
    code' = inlined engine false (Target.WebGl2.header defines' ++ body)

/-- Options under which the header of a vertex stage shows. -/
def HeadsVertex (o : Options σ) : Prop :=
  o.target = some Target.WebGl2.target ∧ o.isFragment = false

/-- The same code, or where the header shows one vertex stage behind either header. -/
def Respelled (o : Options σ) (defines' : List Text) (engine : Option Engine)
    (code code' : Text) : Prop :=
  code = code' ∨ o.HeadsVertex ∧ Headed engine o.defines defines' code code'

/-- The same failure, or the same source with its includes and codes that are related. -/
inductive Outcome (T : Text → Text → Prop) :
    Except Failure Processed → Except Failure Processed → Prop
  | failed (failure : Failure) : Outcome T (.error failure) (.error failure)
  | done (raw : Text) (related : T code code') : Outcome T (.ok ⟨code, raw⟩) (.ok ⟨code', raw⟩)

theorem Outcome.eq {result result' : Except Failure Processed} (h : Outcome Eq result result') :
    result = result' := by
  cases h with
  | failed failure => rfl
  | done raw same => rw [same]

section Respelling
variable {o : Options σ} {defines' : List Text} {engine : Option Engine} {T : Text → Text → Prop}

theorem symbols_respelled (same : o.defines.map Define.ofEntry = defines'.map Define.ofEntry)
    (state : σ) :
    (o.withDefines defines').symbols engine state = o.symbols engine state := by
  simp only [Options.symbols, Symbols.ofEntries_congr same]
  rfl

theorem askTarget_congr {hook hook' : Target σ → Hook σ α}
    (same : ∀ t ∈ o.target, hook t = hook' t) : o.askTarget hook = o.askTarget hook' := by
  unfold askTarget
  split
  · rfl
  · next t target => rw [same t target]

theorem askTarget_beforeConditionals (standard : Target.Standard o.target)
    (defines' : List Text) (source : Text)
    (symbols : Symbols) :
    o.askTarget (·.beforeConditionals source o.defines symbols o.isFragment) =
      o.askTarget (·.beforeConditionals source defines' symbols o.isFragment) := by
  apply askTarget_congr
  intro t target
  rw [Option.mem_def] at target
  rw [target] at standard
  cases standard <;> rfl

/-- Conversion is related as the text is that the target is asked about once conditionals are
evaluated. -/
theorem beside_convert (standard : Target.Standard o.target)
    (same : o.defines.map Define.ofEntry = defines'.map Define.ofEntry)
    (edits : ∀ code, Beside
      (fun edited edited' => T (inlined engine o.isFragment (edited.getD code))
        (inlined engine o.isFragment (edited'.getD code)))
      (o.askTarget (·.afterConditionals code o.defines o.isFragment engine))
      (o.askTarget (·.afterConditionals code defines' o.isFragment engine)))
    (source : Text) :
    Beside T (o.convert engine source)
      ((o.withDefines defines').convert engine source) := by
  refine .after _ fun s => ?_
  rw [symbols_respelled same]
  change Beside T (o.askTarget _ >>= _) (o.askTarget _ >>= _)
  rw [askTarget_beforeConditionals standard defines']
  refine .after _ fun edited => .after _ fun _ => .after _ fun code => ?_
  refine (edits code.1).bind fun edited edited' related => ?_
  simp only [inlined] at related
  cases inlining : engine.bind (·.inlining) with
  | none =>
    rw [inlining] at related
    exact .pure related
  | some inline =>
    rw [inlining] at related
    exact .pure related

/-- Unless the header of a vertex stage shows and differs, the target is told nothing new. -/
theorem askTarget_afterConditionals (standard : Target.Standard o.target)
    (header : o.HeadsVertex → Target.WebGl2.header o.defines = Target.WebGl2.header defines')
    (code : Text) :
    o.askTarget (·.afterConditionals code o.defines o.isFragment engine) =
      o.askTarget (·.afterConditionals code defines' o.isFragment engine) := by
  apply askTarget_congr
  intro t target
  rw [Option.mem_def] at target
  rw [target] at standard
  cases standard with
  | plain language => rfl
  | webGl2 =>
    funext state
    cases stage : o.isFragment with
    | true => rfl
    | false =>
      simp only [Target.WebGl2.target, Bool.false_eq_true, if_false]
      rw [Target.WebGl2.convertVertex_eq, header ⟨target, stage⟩,
        ← Target.WebGl2.convertVertex_eq]

theorem convert_respelled (standard : Target.Standard o.target)
    (same : o.defines.map Define.ofEntry = defines'.map Define.ofEntry)
    (header : o.HeadsVertex → Target.WebGl2.header o.defines = Target.WebGl2.header defines')
    (source : Text) :
    (o.withDefines defines').convert engine source =
      o.convert engine source := by
  refine (Beside.eq (beside_convert standard same (fun code => ?_) source)).symm
  rw [askTarget_afterConditionals standard header]
  exact (Beside.refl _).mono fun edited edited' same => by rw [same]

theorem beside_convert_headed (heads : o.HeadsVertex)
    (same : o.defines.map Define.ofEntry = defines'.map Define.ofEntry) (source : Text) :
    Beside (Headed engine o.defines defines') (o.convert engine source)
      ((o.withDefines defines').convert engine source) := by
  obtain ⟨target, stage⟩ := heads
  refine beside_convert (target ▸ .webGl2) same (fun code s => ?_) source
  rw [askTarget, askTarget, target, stage]
  refine ⟨⟨Target.WebGl2.convertVertex code [], ?_, ?_⟩, rfl, rfl⟩
  · rw [← Target.WebGl2.convertVertex_eq]
    rfl
  · rw [← Target.WebGl2.convertVertex_eq]
    rfl

theorem beside_convertStage (related : ∀ source, Beside T (o.convert engine source)
      ((o.withDefines defines').convert engine source)) (source : Text) :
    Beside (fun code code' => code = code' ∨ T code code') (o.convertStage engine source)
      ((o.withDefines defines').convertStage engine source) := by
  have converted (source : Text) :=
    (related source).mono fun code code' => Or.inr (a := code = code')
  refine .after _ fun s => ?_
  have target : (o.withDefines defines').target = o.target := rfl
  have precision : (o.withDefines defines').withPrecision = o.withPrecision := rfl
  rw [target, precision]
  cases o.target with
  | none => exact .pure (.inl rfl)
  | some t =>
    dsimp only
    split
    · split
      · exact converted _
      · exact .after _ fun _ => .pure (.inl rfl)
    · exact converted _

theorem resolveStored_withDefines (o : Options σ) (source : Text) :
    (o.withDefines defines').resolveStored engine source = o.resolveStored engine source := by
  have resolved (store : Store) : Include.resolve (o.withDefines defines').toSettings engine store
      source = Include.resolve o.toSettings engine store source :=
    Include.Round.resolve_withDefines o.toSettings defines' engine ⟨_, store, source⟩
  simp only [resolveStored, resolved]

theorem beside_runOn (plain : o.afterIncludes = none) {work work' : Text → Run σ Text}
    (related : ∀ code, Beside T (work code) (work' code)) (source : Text) :
    Beside (Outcome T) (o.runOn engine source work)
      ((o.withDefines defines').runOn engine source work') := by
  have included : (o.withDefines defines').withIncludes engine source =
      o.withIncludes engine source := by
    have plain' : (o.withDefines defines').afterIncludes = none := plain
    simp only [withIncludes, plain, plain', resolveStored_withDefines]
    rfl
  rw [runOn, runOn, included]
  refine .after _ fun result => ?_
  cases result with
  | error failure => exact .pure (.failed failure)
  | ok raw => exact (related raw).bind fun code code' h => .pure (.done raw h)

/-- A hook that the target does not have is not asked. -/
theorem askTarget_absent {hook : Target σ → Hook σ α}
    (absent : ∀ t ∈ o.target, hook t = .absent) : o.askTarget hook = pure none := by
  unfold askTarget
  split
  · rfl
  · next t target =>
    rw [absent t target]
    rfl

/-- A run without hooks around the resolving fails as that does, or works on what it gives. -/
theorem value_runOn_map {source : Text}
    (declined : o.askTarget (·.onSource source o.isFragment) = pure none)
    (plain : o.afterIncludes = none) (work : Text → Run σ Text) (s : Session σ) :
    let resolved := (Include.resolve o.toSettings engine s.store source).value
    (o.runOn engine source work s).value.1 =
      resolved.1.map fun code => ⟨(work code { s with store := resolved.2 }).value.1, code⟩ := by
  intro resolved
  have included : (o.withIncludes engine source s).value =
      (resolved.1, { s with store := resolved.2 }) := by
    rw [withIncludes, declined, plain]
    change (resolved.1.map id, _) = _
    rw [Except.map_id]
    rfl
  rw [runOn, Session.value_bind, included]
  cases resolved.1 <;> rfl

/-- A run on a source that resolves, without hooks around that. -/
theorem value_runOn {source : Text}
    (declined : o.askTarget (·.onSource source o.isFragment) = pure none)
    (plain : o.afterIncludes = none) {s : Session σ} {code : Text} {store : Store}
    (resolved : (Include.resolve o.toSettings engine s.store source).value = (.ok code, store))
    (work : Text → Run σ Text) :
    (o.runOn engine source work s).value.1 = .ok ⟨(work code { s with store }).value.1, code⟩ := by
  rw [value_runOn_map declined plain, resolved]
  rfl

theorem inlined_of_none (kept : engine.bind (·.inlining) = none) (isFragment : Bool)
    (code : Text) : inlined engine isFragment code = code := by
  rw [inlined, kept]

/-- Hooks that decline leave conversion no more than the conditionals to evaluate. -/
theorem value_convert_silent (silent : ∀ t ∈ o.target, t.Silent) (source : Text)
    (s : Session σ) :
    (o.convert engine source s).value.1 = inlined engine o.isFragment
      (o.evaluate source (o.symbols engine s.lines.target)
        { s with lines := { s.lines with inBlock := false } }).value.1.1 := by
  have before (symbols : Symbols) :
      o.askTarget (·.beforeConditionals source o.defines symbols o.isFragment) = pure none :=
    askTarget_absent fun t mem => (silent t mem).beforeConditionals ..
  have after (code : Text) :
      o.askTarget (·.afterConditionals code o.defines o.isFragment engine) = pure none :=
    askTarget_absent fun t mem => (silent t mem).afterConditionals ..
  simp only [convert, before, after, pure_bind, inlined]
  cases engine.bind (·.inlining) <;> rfl

/-- A run without a host on a source that is its own resolution. -/
theorem value_runOn_unhosted (target : o.target = some Target.WebGl2.target)
    (plain : o.afterIncludes = none) {source : Text} {s : Session σ}
    (resolved : (Include.resolve o.toSettings none s.store source).value = (.ok source, s.store))
    (work : Text → Run σ Text) :
    (o.runOn none source work s).value.1 = .ok ⟨(work source s).value.1, source⟩ := by
  have declined : o.askTarget (·.onSource source o.isFragment) = pure none := by
    rw [askTarget, target]
    rfl
  exact value_runOn declined plain resolved work

/-- The stage of an empty source is no more than a precision, and that is converted. -/
theorem convertStage_empty (heads : o.HeadsVertex) (s : Session σ) :
    ∃ code, o.convertStage none [] s = o.convert none code s ∧
      (o.withDefines defines').convertStage none [] s =
        (o.withDefines defines').convert none code s := by
  refine ⟨o.withPrecision s.lines.target [], ?_⟩
  have version : isVersion3 Target.WebGl2.target s.lines.target
      (o.withPrecision s.lines.target []) = false := by
    rw [withPrecision, heads.1]
    cases o.highPrecision <;> rfl
  have converts (o' : Options σ) (target : o'.target = some Target.WebGl2.target)
      (precision : o'.withPrecision = o.withPrecision) :
      o'.convertStage none [] s = o'.convert none (o.withPrecision s.lines.target []) s := by
    simp only [convertStage, target, precision]
    change (if isVersion3 Target.WebGl2.target s.lines.target (o.withPrecision s.lines.target [])
      then _ else _ : Run σ Text) s = _
    rw [version]
    rfl
  exact ⟨converts o heads.1 rfl, converts _ heads.1 rfl⟩

theorem header_eq_of_convert {source : Text} {s : Session σ} (heads : o.HeadsVertex)
    (same : o.defines.map Define.ofEntry = defines'.map Define.ofEntry)
    (equal : (o.convert none source s).value.1 =
      ((o.withDefines defines').convert none source s).value.1) :
    Target.WebGl2.header o.defines = Target.WebGl2.header defines' := by
  obtain ⟨⟨body, headed, headed'⟩, -⟩ := beside_convert_headed heads same source s
  rw [headed, headed'] at equal
  exact List.append_cancel_right equal

theorem beside_convert_respelled (standard : Target.Standard o.target)
    (same : o.defines.map Define.ofEntry = defines'.map Define.ofEntry) (source : Text) :
    Beside (o.Respelled defines' engine) (o.convert engine source)
      ((o.withDefines defines').convert engine source) := by
  by_cases heads : o.HeadsVertex
  · exact (beside_convert_headed heads same source).mono fun _ _ headed => .inr ⟨heads, headed⟩
  · rw [convert_respelled standard same fun h => absurd h heads]
    exact (Beside.refl _).mono fun _ _ => .inl

/-- Runs are the same for every source if converting is, and only then. -/
theorem run_eq_iff (run : (o : Options σ) → Option Engine → Text → Run σ Text)
    (plain : o.afterIncludes = none)
    (same : o.defines.map Define.ofEntry = defines'.map Define.ofEntry) (s : Session σ)
    (alike : (o.HeadsVertex → Target.WebGl2.header o.defines = Target.WebGl2.header defines') →
      ∀ engine code, Beside Eq (run o engine code) (run (o.withDefines defines') engine code))
    (empty : o.HeadsVertex → ∃ code, run o none [] s = o.convert none code s ∧
      run (o.withDefines defines') none [] s = (o.withDefines defines').convert none code s) :
    (∀ engine source, o.runOn engine source (run o engine) s =
        (o.withDefines defines').runOn engine source (run (o.withDefines defines') engine) s) ↔
      (o.HeadsVertex → Target.WebGl2.header o.defines = Target.WebGl2.header defines') := by
  constructor
  · intro equal heads
    have resolved (o : Options σ) :
        (Include.resolve o.toSettings none s.store []).value = (.ok [], s.store) :=
      Include.value_resolveWithin_complete _ rfl
    have codes := congrArg (·.value.1) (equal none [])
    rw [value_runOn_unhosted (o := o) heads.1 plain (resolved _),
      value_runOn_unhosted (o := o.withDefines defines') heads.1 plain (resolved _)] at codes
    obtain ⟨code, converted, converted'⟩ := empty heads
    rw [converted, converted'] at codes
    exact header_eq_of_convert heads same (Processed.mk.inj (Except.ok.inj codes)).1
  · intro header engine source
    have runs : Beside Eq (o.runOn engine source (run o engine))
        ((o.withDefines defines').runOn engine source (run (o.withDefines defines') engine)) :=
      (beside_runOn plain (alike header engine) source).mono fun _ _ => Outcome.eq
    exact congrFun runs.eq s

end Respelling

/-- Lists of defines that are read alike. All that processing and preprocessing can show of the
spelling is what stands in front of a vertex stage, and that shows whenever it differs. -/
theorem run_respelled_iff {σ : Type} (o : Options σ) (standard : Target.Standard o.target)
    (plain : o.afterIncludes = none) (defines' : List Text)
    (same : o.defines.map Define.ofEntry = defines'.map Define.ofEntry) (s : Session σ) :
    let o' := o.withDefines defines'
    let mark := "#define MULTIVIEW".toList
    let spelled := o.HeadsVertex → (mark ∈ o.defines ↔ mark ∈ defines')
    (∀ engine source,
      Beside (Outcome (o.Respelled defines' engine)) (o.process engine source)
        (o'.process engine source) ∧
      Beside (Outcome (o.Respelled defines' engine)) (o.preprocess engine source)
        (o'.preprocess engine source)) ∧
    ((∀ engine source, o.process engine source s = o'.process engine source s) ↔ spelled) ∧
    ((∀ engine source, o.preprocess engine source s = o'.preprocess engine source s) ↔
      spelled) := by
  intro o' mark spelled
  have header : spelled ↔
      (o.HeadsVertex → Target.WebGl2.header o.defines = Target.WebGl2.header defines') := by
    rw [Target.WebGl2.header_eq_iff]
  have converts (header : o.HeadsVertex →
      Target.WebGl2.header o.defines = Target.WebGl2.header defines') (engine : Option Engine)
      (source : Text) : Beside Eq (o.convert engine source) (o'.convert engine source) := by
    rw [convert_respelled standard same header]
    exact .refl _
  refine ⟨fun engine source => ⟨?_, ?_⟩, ?_, ?_⟩
  · apply beside_runOn plain _ source
    exact fun code => (beside_convertStage (beside_convert_respelled standard same) code).mono
      fun _ _ h => h.elim .inl id
  · exact beside_runOn plain (beside_convert_respelled standard same) source
  · rw [header]
    refine run_eq_iff convertStage plain same s (fun header engine code => ?_)
      (convertStage_empty · s)
    exact (beside_convertStage (converts header engine) code).mono fun _ _ => or_self_iff.mp
  · rw [header]
    exact run_eq_iff convert plain same s converts fun _ => ⟨_, rfl, rfl⟩

/-- Other spellings of a define that stands beside the one the header looks for. -/
theorem run_respelled_iff_semicolon :
    let o : Options Unit := {
      target := some Target.WebGl2.target
      defines := ["FOG 2".toList, "#define MULTIVIEW".toList] }
    let defines' := ["#define FOG 2;".toList, "#define MULTIVIEW".toList]
    let s : Session Unit := { lines := { target := () } }
    Target.Standard o.target ∧ o.afterIncludes = none ∧
      o.defines.map Define.ofEntry = defines'.map Define.ofEntry ∧ o.HeadsVertex ∧
      ∀ engine source,
        o.process engine source s = (o.withDefines defines').process engine source s := by
  intro o defines' s
  have same : o.defines.map Define.ofEntry = defines'.map Define.ofEntry := by decide
  refine ⟨.webGl2, rfl, same, ⟨rfl, rfl⟩, ?_⟩
  exact (run_respelled_iff o .webGl2 rfl defines' same s).2.1.mpr fun _ => by decide

/-- The define that the header looks for, spelled as a bare name: conditionals find it, and the
header does not. -/
theorem process_respelled_ne :
    let o : Options Unit := {
      target := some Target.WebGl2.target
      defines := ["#define MULTIVIEW".toList] }
    let defines' := ["MULTIVIEW".toList]
    let s : Session Unit := { lines := { target := () } }
    let source := "#ifdef MULTIVIEW\nmany\n#endif".toList
    let code := "precision mediump float;\r\nmany\r\n".toList
    o.defines.map Define.ofEntry = defines'.map Define.ofEntry ∧
      (o.process none source s).value.1 =
        .ok ⟨Target.WebGl2.multiviewHeader ++ code, source⟩ ∧
      ((o.withDefines defines').process none source s).value.1 = .ok ⟨code, source⟩ := by
  intro o defines' s source code
  have resolved (o : Options Unit) :
      (Include.resolve o.toSettings none s.store source).value = (.ok source, s.store) :=
    Include.value_resolveWithin_complete _ rfl
  have converted : (o.convertStage none source s).value.1 =
      Target.WebGl2.multiviewHeader ++ code := by decide +kernel
  have converted' : ((o.withDefines defines').convertStage none source s).value.1 = code := by
    decide +kernel
  refine ⟨by decide, ?_, ?_⟩
  · rw [process, value_runOn_unhosted rfl rfl (resolved o), converted]
  · rw [process, value_runOn_unhosted rfl rfl (resolved _), converted']

end Options
end ShaderPrep
