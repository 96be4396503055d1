import ShaderPrep.Proofs.Processing.Respelling

/-! An entry of the list of defines in the symbols that a run starts with. Symbols of other names
are what they are without the entry, and its own has the value of the entry, unless a later entry,
the run itself or the host writes that symbol too. -/
namespace ShaderPrep

namespace Symbols
variable {name : Text} {s t : Symbols}

/-- Tables that differ in one symbol at most. -/
def SameBut (name : Text) (s t : Symbols) : Prop := ∀ k ≠ name, s.get? k = t.get? k

theorem SameBut.insert (h : SameBut name s t) (key value : Text) :
    SameBut name (s.insert key value) (t.insert key value) := by
  intro k other
  rw [Table.get?_insert, Table.get?_insert, h k other]

theorem SameBut.insertAll (h : SameBut name s t) (writes : List (Text × Text)) :
    SameBut name (s.insertAll writes) (t.insertAll writes) := by
  induction writes generalizing s t with
  | nil => exact h
  | cons e rest ih => exact ih (h.insert e.1 e.2)

theorem sameBut_insert (s : Symbols) (name value : Text) :
    SameBut name s (s.insert name value) := by
  intro k other
  rw [Table.get?_insert, if_neg other]

theorem get?_insertAll_of_notMem {writes : List (Text × Text)}
    (h : name ∉ writes.map Prod.fst) (s : Symbols) :
    (s.insertAll writes).get? name = s.get? name := by
  induction writes generalizing s with
  | nil => rfl
  | cons e rest ih =>
    rw [List.map_cons, List.mem_cons, not_or] at h
    exact (ih h.2 _).trans (by rw [Table.get?_insert, if_neg h.1])

/-- One more write, over which none of that name is written. -/
theorem insertAll_insert (s : Symbols) (first : List (Text × Text)) {last : List (Text × Text)}
    (h : name ∉ last.map Prod.fst) (value : Text) :
    SameBut name (s.insertAll (first ++ last)) (s.insertAll (first ++ (name, value) :: last)) ∧
      (s.insertAll (first ++ (name, value) :: last)).get? name = some value := by
  simp only [Table.insertAll, List.foldl_append, List.foldl_cons]
  refine ⟨(sameBut_insert _ name value).insertAll last, ?_⟩
  exact (get?_insertAll_of_notMem h _).trans (Table.get?_insert_self ..)

end Symbols

/-- The host neither writes the symbol nor looks at it. -/
structure Engine.Spares (engine : Engine) (name : Text) : Prop where
  others : Symbols.SameBut name s t →
    Symbols.SameBut name (engine.globals s) (engine.globals t)
  keeps : ∀ s, (engine.globals s).get? name = s.get? name

theorem Engine.spares_of_fixedGlobals {engine : Engine} {globals : List (Text × Text)}
    (fixed : engine.globals = fixedGlobals globals) {name : Text}
    (h : name ∉ globals.map Prod.fst) : engine.Spares name where
  others same := by
    rw [fixed]
    exact same.insertAll globals
  keeps s := by
    rw [fixed]
    exact Symbols.get?_insertAll_of_notMem h s

namespace Options
variable {σ : Type} {o : Options σ} {engine : Option Engine} {state : σ} {name : Text}

/-- The symbols that a run has of its own, in the order in which it writes them. -/
def ownSymbols (o : Options σ) (state : σ) : List (Text × Text) :=
  (if o.isNdcHalfZRange then [("IS_NDC_HALF_ZRANGE".toList, [])] else []) ++
    (if o.useReverseDepthBuffer then [("USE_REVERSE_DEPTHBUFFER".toList, [])] else []) ++
    (if o.language? state = some .glsl then [("GL_ES".toList, "true".toList)] else []) ++
    [("__VERSION__".toList, o.version), (o.platform, "true".toList)]

/-- The symbols that a list of defines writes. -/
def listedSymbols (entries : List Text) : List (Text × Text) :=
  entries.map fun entry => ((Define.ofEntry entry).name, (Define.ofEntry entry).value)

/-- What a host makes of the symbols of a run. -/
def hosted : Option Engine → Symbols → Symbols
  | none, symbols => symbols
  | some engine, symbols => engine.globals symbols

/-- Neither the run nor its host has the symbol of its own. -/
structure Spares (o : Options σ) (engine : Option Engine) (state : σ) (name : Text) : Prop where
  own : name ∉ (o.ownSymbols state).map Prod.fst
  host : ∀ e ∈ engine, e.Spares name

theorem symbols_eq_hosted (o : Options σ) (engine : Option Engine) (state : σ) :
    o.symbols engine state =
      hosted engine (Table.ofList (listedSymbols o.defines ++ o.ownSymbols state)) := by
  have listed : Symbols.ofEntries o.defines =
      (∅ : Symbols).insertAll (listedSymbols o.defines) := by
    rw [Table.insertAll, listedSymbols, List.foldl_map]
    rfl
  have own (symbols : Symbols) : symbols.insertAll (o.ownSymbols state) =
      ((symbols |> setIf o.isNdcHalfZRange "IS_NDC_HALF_ZRANGE".toList []
        |> setIf o.useReverseDepthBuffer "USE_REVERSE_DEPTHBUFFER".toList []
        |> setIf (o.language? state = some .glsl) "GL_ES".toList "true".toList).insert
          "__VERSION__".toList o.version).insert o.platform "true".toList := by
    simp only [ownSymbols, setIf, Table.insertAll, List.foldl_append, decide_eq_true_eq]
    split <;> split <;> split <;> rfl
  have all : Table.ofList (listedSymbols o.defines ++ o.ownSymbols state) =
      (Symbols.ofEntries o.defines).insertAll (o.ownSymbols state) := by
    rw [listed]
    exact List.foldl_append
  rw [all, own]
  cases engine <;> rfl

theorem Spares.hosted_sameBut (h : o.Spares engine state name) {s t : Symbols}
    (same : Symbols.SameBut name s t) :
    Symbols.SameBut name (hosted engine s) (hosted engine t) := by
  cases engine with
  | none => exact same
  | some engine => exact (h.host engine rfl).others same

theorem Spares.get?_hosted (h : o.Spares engine state name) (s : Symbols) :
    (hosted engine s).get? name = s.get? name := by
  cases engine with
  | none => rfl
  | some engine => exact (h.host engine rfl).keeps s

theorem notMem_listedSymbols {entries : List Text}
    (h : ∀ entry ∈ entries, (Define.ofEntry entry).name ≠ name) :
    name ∉ (listedSymbols entries).map Prod.fst := by
  intro mem
  obtain ⟨e, listed, named⟩ := List.mem_map.mp mem
  obtain ⟨entry, mem, rfl⟩ := List.mem_map.mp listed
  exact h entry mem named

/-- The symbols without an entry and with it. -/
theorem symbols_withEntry (entry : Text) (h : o.Spares engine state (Define.ofEntry entry).name)
    {first last : List Text} (listed : o.defines = first ++ last)
    (unwritten : ∀ e ∈ last, (Define.ofEntry e).name ≠ (Define.ofEntry entry).name) :
    let symbols := (o.withDefines (first ++ entry :: last)).symbols engine state
    Symbols.SameBut (Define.ofEntry entry).name (o.symbols engine state) symbols ∧
      symbols.get? (Define.ofEntry entry).name = some (Define.ofEntry entry).value := by
  intro symbols
  have later : (Define.ofEntry entry).name ∉
      (listedSymbols last ++ o.ownSymbols state).map Prod.fst := by
    rw [List.map_append, List.mem_append, not_or]
    exact ⟨notMem_listedSymbols unwritten, h.own⟩
  obtain ⟨same, written⟩ := Symbols.insertAll_insert ∅ (listedSymbols first) later
    (Define.ofEntry entry).value
  have without : listedSymbols o.defines ++ o.ownSymbols state =
      listedSymbols first ++ (listedSymbols last ++ o.ownSymbols state) := by
    rw [listed, listedSymbols, List.map_append, List.append_assoc]
    rfl
  have within : listedSymbols (first ++ entry :: last) ++ o.ownSymbols state =
      listedSymbols first ++ ((Define.ofEntry entry).name, (Define.ofEntry entry).value) ::
        (listedSymbols last ++ o.ownSymbols state) := by
    rw [listedSymbols, List.map_append, List.append_assoc]
    rfl
  have symbols_eq : symbols =
      hosted engine (Table.ofList (listedSymbols (first ++ entry :: last) ++ o.ownSymbols state)) :=
    symbols_eq_hosted (o.withDefines (first ++ entry :: last)) engine state
  rw [symbols_eq, symbols_eq_hosted, without, within]
  exact ⟨h.hosted_sameBut same, (h.get?_hosted _).trans written⟩

theorem get?_symbols_of_unlisted (h : o.Spares engine state name)
    (unlisted : ∀ entry ∈ o.defines, (Define.ofEntry entry).name ≠ name) :
    (o.symbols engine state).get? name = none := by
  have unwritten : name ∉ (listedSymbols o.defines ++ o.ownSymbols state).map Prod.fst := by
    rw [List.map_append, List.mem_append, not_or]
    exact ⟨notMem_listedSymbols unlisted, h.own⟩
  rw [symbols_eq_hosted, h.get?_hosted]
  exact Symbols.get?_insertAll_of_notMem unwritten ∅

end Options
end ShaderPrep
