import ShaderPrep.Files.View
import ShaderPrep.Proofs.Processing.Listing

/-! The value of each symbol that a run starts with. The writes of all sources make one sequence,
in which the last write of a name counts; so the sources have a precedence, and within each of them
a later write wins. -/
namespace ShaderPrep

namespace Entries
variable {α : Type} {name : Text} {first rest : List (Text × α)}

theorem find?_append : find? name (first ++ rest) = (find? name first).or (find? name rest) := by
  induction first with
  | nil => rfl
  | cons e first ih =>
    simp only [List.cons_append, find?]
    split
    · rfl
    · exact ih

/-- The value that is written last under a name. -/
def last? (name : Text) (writes : List (Text × α)) : Option α := find? name writes.reverse

theorem last?_append : last? name (first ++ rest) = (last? name rest).or (last? name first) := by
  rw [last?, List.reverse_append, find?_append]
  rfl

theorem last?_singleton (key : Text) (value : α) :
    last? name [(key, value)] = if name = key then some value else none := by
  simp only [last?, List.reverse_singleton, find?, eq_comm]

/-- Writes that take place on a condition. -/
theorem last?_ite {p : Prop} [Decidable p] (key : Text) (value : α) :
    last? name (if p then [(key, value)] else []) =
      if p ∧ name = key then some value else none := by
  by_cases given : p
  · simp only [given, if_true, true_and]
    exact last?_singleton key value
  · simp only [given, if_false, false_and]
    rfl

end Entries

/-- After a sequence of writes, a name has the last value that is written under it, or else what it
had before. -/
theorem Table.get?_insertAll {α : Type} (table : Table α) (writes : List (Text × α))
    (name : Text) :
    (table.insertAll writes).get? name = (Entries.last? name writes).or (table.get? name) := by
  induction writes generalizing table with
  | nil => rfl
  | cons e rest ih =>
    have step : table.insertAll (e :: rest) = (table.insert e.1 e.2).insertAll rest := rfl
    have parts : Entries.last? name (e :: rest) =
        (Entries.last? name rest).or (if name = e.1 then some e.2 else none) := by
      rw [← Entries.last?_singleton, ← Entries.last?_append, List.singleton_append]
    rw [step, ih, Table.get?_insert, parts, Option.or_assoc]
    congr 1
    split <;> rfl

namespace Options
variable {σ : Type}

/-- What the sources of symbols give for a name, the one that takes precedence first: the host, the
platform, the version, the mark of the shading language, the conventions for depth, and the list of
defines. -/
def given (o : Options σ) (globals : List (Text × Text)) (state : σ) (name : Text) :
    List (Option Text) :=
  [Entries.last? name globals,
    if name = o.platform then some "true".toList else none,
    if name = "__VERSION__".toList then some o.version else none,
    if o.language? state = some .glsl ∧ name = "GL_ES".toList then some "true".toList else none,
    if o.useReverseDepthBuffer ∧ name = "USE_REVERSE_DEPTHBUFFER".toList then some [] else none,
    if o.isNdcHalfZRange ∧ name = "IS_NDC_HALF_ZRANGE".toList then some [] else none,
    ((o.defines.map Define.ofEntry).reverse.find? (·.name = name)).map Define.value]

theorem findSome?_id_cons {α : Type} (value : Option α) (rest : List (Option α)) :
    (value :: rest).findSome? id = value.or (rest.findSome? id) := by
  cases value <;> rfl

theorem last?_listedSymbols (defines : List Text) (name : Text) :
    Entries.last? name (listedSymbols defines) =
      ((defines.map Define.ofEntry).reverse.find? (·.name = name)).map Define.value := by
  rw [Entries.last?, listedSymbols, ← List.map_reverse, ← List.map_reverse]
  induction defines.reverse with
  | nil => rfl
  | cons entry rest ih =>
    simp only [List.map_cons, Entries.find?, List.find?_cons, ih]
    by_cases named : (Define.ofEntry entry).name = name <;> simp [named]

/-- A symbol has the value that the first of its sources gives, in the order of precedence, and is
not there if none gives one; without a host, this source gives nothing. -/
theorem get?_symbols_eq (o : Options σ) (files : FileView) (supportsUniformBuffers : Bool)
    (globals : List (Text × Text)) (state : σ) (name : Text) :
    (o.symbols (some (files.engine supportsUniformBuffers globals)) state).get? name =
        (o.given globals state name).findSome? id ∧
      (o.symbols none state).get? name = (o.given [] state name).findSome? id := by
  have host : hosted (some (files.engine supportsUniformBuffers globals)) =
      fun symbols => symbols.insertAll globals := rfl
  have last_two : [("__VERSION__".toList, o.version), (o.platform, "true".toList)] =
      [("__VERSION__".toList, o.version)] ++ [(o.platform, "true".toList)] := rfl
  have own : (Table.ofList (listedSymbols o.defines ++ o.ownSymbols state)).get? name =
      (o.given [] state name).tail.findSome? id := by
    rw [Table.ofList, Table.get?_insertAll, Table.get?_empty, Option.or_none]
    simp only [ownSymbols, last_two, Entries.last?_append, Entries.last?_singleton,
      Entries.last?_ite, last?_listedSymbols, Option.or_assoc, given, List.tail_cons,
      findSome?_id_cons, List.findSome?_nil, Option.or_none]
  rw [symbols_eq_hosted, symbols_eq_hosted, host]
  constructor
  · exact (Table.get?_insertAll _ globals name).trans
      ((congrArg _ own).trans (findSome?_id_cons _ _).symm)
  · exact own

end Options
end ShaderPrep
