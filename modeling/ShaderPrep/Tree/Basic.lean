import ShaderPrep.Guard.Basic

/-!
Sources as trees of plain lines and conditional blocks. A block holds its branches in order; the
branch without a guard is taken when no other is.
-/
namespace ShaderPrep.Tree

/-- A symbol that a line defines, with the value it writes. -/
structure LineDefine where
  name : Text
  value : Option Text
  deriving DecidableEq, Repr

/-- The value a symbol gets: a missing or empty one counts as true. -/
def LineDefine.effective (define : LineDefine) : Text :=
  match define.value with
  | some (c :: value) => c :: value
  | _ => "true".toList

structure Branch (α : Type) where
  guard : Option Guard
  body : α

inductive Node where
  /-- A line, if any, the nodes under it, and the symbol it defines. -/
  | code (line : Option Text) (children : List Node) (define : Option LineDefine)
  | block (branches : List (Branch Node))

/-- Nodes under no line, as they stand in a branch or at the root. -/
def Node.group (children : List Node) : Node := .code none children none

instance : Inhabited Node := ⟨.group []⟩

/-- The symbol a line defines: the second word after one semicolon is dropped, with the third as
its value when there are three. -/
def LineDefine.ofLine? (line : Text) : Option LineDefine :=
  match (Text.replaceFirst [';'] [] line).splitOn ' ' with
  | [_, name, value] => if name = [] then none else some ⟨name, some value⟩
  | _ :: name :: _ => if name = [] then none else some ⟨name, none⟩
  | _ => none

/-- A line without a keyword. -/
def Node.ofLine (line : Text) : Node :=
  .code (some line) [] (if Text.begins "#d".toList line then LineDefine.ofLine? line else none)

end ShaderPrep.Tree
