import ShaderPrep.Table

/-!
The repository of sources at hand: include fragments by key and stages by name. The last write of
a key counts.
-/
namespace ShaderPrep

structure Store where
  includes : Table Text := ∅
  shaders : Table Text := ∅

namespace Store

def include? (store : Store) (key : Text) : Option Text := store.includes.get? key

def setInclude (store : Store) (key source : Text) : Store :=
  { store with includes := store.includes.insert key source }

def shader? (store : Store) (key : Text) : Option Text := store.shaders.get? key

def setShader (store : Store) (key source : Text) : Store :=
  { store with shaders := store.shaders.insert key source }

def includeCount (store : Store) : Nat := store.includes.size

@[simp] theorem include?_setInclude (store : Store) (key k source : Text) :
    (store.setInclude key source).include? k = if k = key then some source else store.include? k :=
  Table.get?_insert ..

@[simp] theorem shader?_setShader (store : Store) (key k source : Text) :
    (store.setShader key source).shader? k = if k = key then some source else store.shader? k :=
  Table.get?_insert ..

end Store
end ShaderPrep
