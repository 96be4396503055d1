import ShaderPrep.Engine
import ShaderPrep.Files.Tree

/-!
Files as a run sees them: what reading a path gives. Only finitely many paths can be read, since
a system takes none beyond some length; so a view can serve an engine.
-/
namespace ShaderPrep

structure FileView where
  read : Text → Except FileFault Text
  finite : ∃ paths : List Text, ∀ path text, read path = .ok text → path ∈ paths

namespace FileTree

theorem byteSize_lt_of_read {tree : FileTree} {path text : Text} (h : tree.read path = .ok text) :
    Text.byteSize path < maxPath := by
  simp only [read, walk, checkPath] at h
  split at h
  · cases h
  · split at h
    · cases h
    · split at h
      · cases h
      · next short => exact Nat.lt_of_not_le short

/-- The files of a tree. -/
def view (tree : FileTree) : FileView where
  read := tree.read
  finite := Engine.finite_of_byteSize_le fun _ _ h => Nat.le_of_lt (byteSize_lt_of_read h)

end FileTree

namespace FileView

/-- A list of paths with what reading each gave; all others are not there. -/
def ofReads (reads : List (Text × Except FileFault Text)) : FileView where
  read path := (Entries.find? path reads).getD (.error .notFound)
  finite := by
    refine ⟨reads.map Prod.fst, fun path text h => ?_⟩
    rw [← Entries.find?_isSome]
    cases found : Entries.find? path reads with
    | none => simp [found] at h
    | some _ => rfl

/-- The engine of a host without services of its own but files and some symbols. -/
def engine (files : FileView) (supportsUniformBuffers : Bool) (globals : List (Text × Text)) :
    Engine where
  load url := (files.read url).mapError (·.toFailure url)
  announce url := [(.debug, "loading shader file ".toList ++ url)]
  supportsUniformBuffers := supportsUniformBuffers
  globals := Engine.fixedGlobals globals
  finite := by
    obtain ⟨paths, all⟩ := files.finite
    refine ⟨paths, fun url text h => all url text ?_⟩
    cases found : files.read url with
    | error fault => rw [found] at h; cases h
    | ok content => rw [found] at h; cases h; rfl

end FileView
end ShaderPrep
