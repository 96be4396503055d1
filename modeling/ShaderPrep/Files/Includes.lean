import ShaderPrep.Files.Tree
import ShaderPrep.Journal
import ShaderPrep.Store

/-! Whole directories of includes read into a store, each file under its name. -/
namespace ShaderPrep

/-- The name without its ending, if it is that of a shader file. -/
def shaderStem? (name : Text) : Option Text :=
  match Text.cutLast? ['.'] name with
  | some (c :: stem, ['f', 'x']) => some (c :: stem)
  | _ => none

/-- The path of a name in a directory. -/
def pathIn (directory name : Text) : Text :=
  if directory.getLast? = some '/' then directory ++ name else directory ++ ['/'] ++ name

namespace Store

/-- Reads the shader files among `names` in turn, up to the first that cannot be read. -/
def loadNames (tree : FileTree) (directory : Text) : List Text → Store → Nat →
    Except Failure Nat × Store
  | [], store, loaded => (.ok loaded, store)
  | name :: names, store, loaded =>
    match shaderStem? name with
    | none => loadNames tree directory names store loaded
    | some stem =>
      match tree.read (pathIn directory name) with
      | .error fault => (.error (fault.toFailure (pathIn directory name)), store)
      | .ok source => loadNames tree directory names (store.setInclude stem source) (loaded + 1)

/-- Reads a directory and counts the includes. What was read stays, also when a later file fails. -/
def loadDirectory (store : Store) (tree : FileTree) (directory : Text) :
    Traced (Except Failure Nat × Store) :=
  match tree.list directory with
  | .error fault => pure (.error (fault.toFailure directory), store)
  | .ok names => do
    let (result, store) := loadNames tree directory names store 0
    match result with
    | .error failure => return (.error failure, store)
    | .ok loaded =>
      Traced.debug
        ("preloaded ".toList ++ Text.ofNat loaded ++ " includes from ".toList ++ directory)
      return (.ok loaded, store)

end Store

example : shaderStem? "a.b.fx".toList = some "a.b".toList := by decide
example : shaderStem? ".fx".toList = none ∧ shaderStem? "fx".toList = none := by decide

end ShaderPrep
