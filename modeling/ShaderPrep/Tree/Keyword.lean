import ShaderPrep.Text.Basic

/-!
Keywords of conditional blocks. A line counts as a directive when one of them occurs anywhere in
it; the leftmost one says which directive it is.
-/
namespace ShaderPrep.Tree

inductive Keyword where
  | ifdef
  | ifndef
  | opening
  | otherwise
  | elseIf
  | endif
  deriving DecidableEq, Repr

namespace Keyword

def spelling : Keyword → Text
  | ifdef => "#ifdef".toList
  | ifndef => "#ifndef".toList
  | opening => "#if".toList
  | otherwise => "#else".toList
  | elseIf => "#elif".toList
  | endif => "#endif".toList

/-- A keyword comes before one that it starts with. -/
def all : List Keyword := [ifdef, otherwise, elseIf, endif, ifndef, opening]

/-- The keyword a text starts with. -/
def at? (s : Text) : Option Keyword := all.find? fun k => Text.begins k.spelling s

/-- The leftmost keyword in a text. -/
def first? : Text → Option Keyword
  | [] => none
  | c :: s => (at? (c :: s)).or (first? s)

end Keyword
end ShaderPrep.Tree
