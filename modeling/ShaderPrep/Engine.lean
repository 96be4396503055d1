import ShaderPrep.Failure
import ShaderPrep.Journal
import ShaderPrep.Symbols

/-!
The services of a host: loading files, symbols of its own, and inlining of finished code. A host
holds the locations it loads in memory, so there is a bound on their size, and only finitely many
locations keep to it; that bounds every search for includes.
-/
namespace ShaderPrep

structure Engine where
  load : Text → Except Failure Text
  /-- What the engine notes before it loads from a location. -/
  announce : Text → List (Level × Text) := fun _ => []
  supportsUniformBuffers : Bool := false
  /-- Writes the symbols of the host over those of a run. -/
  globals : Symbols → Symbols := id
  /-- How finished code is inlined, if the host wants that. -/
  inlining : Option (Text → Bool → Text) := none
  /-- There are only finitely many locations to load. Every host that bounds the size of locations
  meets this (`finite_of_byteSize_le`). -/
  finite : ∃ urls : List Text, ∀ url text, load url = .ok text → url ∈ urls

namespace Engine

/-- Asks for a location. -/
def fetch (engine : Engine) (url : Text) : Traced (Except Failure Text) :=
  ⟨engine.load url,
    .load url :: (engine.announce url).map fun (level, message) => .note level message⟩

@[simp] theorem value_fetch (engine : Engine) (url : Text) :
    (engine.fetch url).value = engine.load url := rfl

@[simp] theorem loads_fetch (engine : Engine) (url : Text) :
    (engine.fetch url).loads = [url] := by
  simp [fetch, Traced.loads]

/-- Writes fixed symbols in order, so that the last one of a name counts. -/
def fixedGlobals (globals : List (Text × Text)) (symbols : Symbols) : Symbols :=
  symbols.insertAll globals

/-- Only finitely many texts keep to a bound on their size. -/
theorem finite_of_byteSize_le {load : Text → Except ε Text} {n : Nat}
    (bounded : ∀ url text, load url = .ok text → Text.byteSize url ≤ n) :
    ∃ urls : List Text, ∀ url text, load url = .ok text → url ∈ urls := by
  obtain ⟨texts, all⟩ := Text.exists_forall_mem n
  refine ⟨texts, fun url text loaded => all url ?_⟩
  exact Nat.le_trans url.length_le_byteSize (bounded url text loaded)

/-- Whatever loads no location above some size can be the loading of an engine. -/
theorem exists_load_eq (load : Text → Except Failure Text) {n : Nat}
    (bounded : ∀ url text, load url = .ok text → Text.byteSize url ≤ n) :
    ∃ engine : Engine, engine.load = load :=
  ⟨{ load, finite := finite_of_byteSize_le bounded }, rfl⟩

/-- Loads from a fixed list of files. -/
def loadFrom (files : List (Text × Text)) (missing : Text) (url : Text) : Except Failure Text :=
  match Entries.find? url files with
  | some text => .ok text
  | none => .error { cause := .loadFailed url missing }

theorem loadFrom_finite (files : List (Text × Text)) (missing : Text) :
    ∃ urls : List Text, ∀ url text, loadFrom files missing url = .ok text → url ∈ urls := by
  refine ⟨files.map Prod.fst, fun url text h => ?_⟩
  rw [← Entries.find?_isSome]
  unfold loadFrom at h
  split at h
  · next found => simp [found]
  · cases h

end Engine
end ShaderPrep
