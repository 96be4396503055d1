import ShaderPrep.Files.Fault
import ShaderPrep.Table

/-!
Trees of files. A path is walked name by name from the directory that work is done in; every name
but the last must lead to a directory. Reading and writing tell of the first fault on the way.
-/
namespace ShaderPrep

/-- What stands at a place of a tree. -/
inductive Content where
  | directory
  | file (bytes : ByteArray)

/-- The names on the way to a place, innermost first, and where that way starts: nowhere for the
directory worked in, at `/`, or some directories up. -/
structure Place where
  start : Text := []
  names : List Text := []

namespace Place

/-- What a spelling adds to reach the names below a place. -/
def stem (place : Place) : Text :=
  place.names.foldr (fun name spelled => spelled ++ name ++ ['/']) place.start

/-- The one spelling that a tree keeps of a place. -/
def spelling (place : Place) : Text := place.stem.dropLastIf '/'

def child (place : Place) (name : Text) : Place := { place with names := name :: place.names }

/-- The directory around a place. Nothing is above `/`. -/
def parent (place : Place) : Place :=
  match place.names with
  | _ :: names => { place with names }
  | [] => if place.start = ['/'] then place else ⟨place.start ++ "../".toList, []⟩

end Place

/-- Longest name in bytes. -/
def maxName : Nat := 255

/-- Longest path in bytes, with the end mark of the system. -/
def maxPath : Nat := 4096

/-- Files and directories by the spelling of their places. -/
structure FileTree where
  entries : Table Content := ∅

namespace FileTree

/-- What stands at a place; where a way starts there always is a directory. -/
def content? (tree : FileTree) (place : Place) : Option Content :=
  match place.names with
  | [] => some .directory
  | _ :: _ => tree.entries.get? place.spelling

/-- One name further, from a directory. The place reached may be vacant. -/
def step (tree : FileTree) (place : Place) (name : Text) : Except FileFault Place :=
  match tree.content? place with
  | none => .error .notFound
  | some (.file _) => .error .notDirectory
  | some .directory =>
    if name = [] ∨ name = ['.'] then .ok place
    else if name = ['.', '.'] then .ok place.parent
    else if maxName < Text.byteSize name then .error .nameTooLong
    else .ok (place.child name)

/-- The start of the way that a path spells and the names on it. -/
def route (path : Text) : Place × List Text :=
  match path with
  | '/' :: rest => (⟨['/'], []⟩, rest.splitOn '/')
  | path => ({}, path.splitOn '/')

/-- Refuses what is no path at all. -/
def checkPath (path : Text) : Except FileFault Unit :=
  if path.contains '\x00' then .error .zeroInName
  else if path = [] then .error .notFound
  else if maxPath ≤ Text.byteSize path then .error .nameTooLong
  else .ok ()

/-- The place of a path, which may be vacant. -/
def walk (tree : FileTree) (path : Text) : Except FileFault Place := do
  checkPath path
  let (start, names) := route path
  names.foldlM tree.step start

def read (tree : FileTree) (path : Text) : Except FileFault Text := do
  match tree.content? (← tree.walk path) with
  | none => .error .notFound
  | some .directory => .error .isDirectory
  | some (.file bytes) =>
    match String.fromUTF8? bytes with
    | none => .error .notText
    | some text => .ok text.toList

/-- The names in a directory, in order. -/
def list (tree : FileTree) (path : Text) : Except FileFault (List Text) := do
  let place ← tree.walk path
  match tree.content? place with
  | none => .error .notFound
  | some (.file _) => .error .notDirectory
  | some .directory =>
    let below := tree.entries.keys.filterMap (Text.after? place.stem)
    return (below.filter fun name => name ≠ [] ∧ '/' ∉ name).mergeSort Table.precedes

def put (tree : FileTree) (place : Place) (content : Content) : FileTree :=
  ⟨tree.entries.insert place.spelling content⟩

/-- Writes a file over whatever file there was. A path that ends like one of a directory is taken
for that. -/
def write (tree : FileTree) (path text : Text) : Except FileFault FileTree := do
  checkPath path
  let (start, names) := route path
  let bare := (names.reverse.dropWhile (· = [])).reverse
  let parent ← (bare.dropLast ++ [[]]).foldlM tree.step start
  let place ← tree.step parent (bare.getLastD [])
  if bare ≠ names ∨ bare.getLast? = some ['.'] ∨ bare.getLast? = some ['.', '.'] then
    .error .isDirectory
  else
    match tree.content? place with
    | some .directory => .error .isDirectory
    | _ => .ok (tree.put place (.file (String.ofList text).toUTF8))

/-- One name further on the way to something new; a vacant place becomes a directory. -/
def enter (here : FileTree × Place) (name : Text) : FileTree × Place :=
  let (tree, place) := here
  if name = [] ∨ name = ['.'] then (tree, place)
  else if name = ['.', '.'] then (tree, place.parent)
  else (tree.put (place.child name) .directory, place.child name)

/-- Puts a file or directory in, with the directories on the way to it. -/
def plant (tree : FileTree) (path : Text) (content : Content) : FileTree :=
  let (start, names) := route path
  match content with
  | .directory => (names.foldl enter (tree, start)).1
  | .file _ =>
    let (tree, place) := names.dropLast.foldl enter (tree, start)
    tree.put (place.child (names.getLastD [])) content

def ofList (files : List (Text × Content)) : FileTree :=
  files.foldl (fun tree (path, content) => tree.plant path content) {}

end FileTree
end ShaderPrep
