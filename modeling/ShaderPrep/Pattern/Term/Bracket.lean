import ShaderPrep.Pattern.Term.Escape

/-!
Classes in brackets. Open classes are kept on a stack, so one loop over the text reads them however
deep they are nested; each of its steps takes at least one character.
-/
namespace ShaderPrep.Pattern

/-- A class being read: its items since the last operator, latest first, and what stands on the
left of that operator. -/
structure OpenClass where
  negated : Bool
  items : List ClassTerm := []
  left : Option (ClassTerm × SetOperator) := none

namespace OpenClass

def add (cls : OpenClass) (item : ClassTerm) : OpenClass := { cls with items := item :: cls.items }

/-- What has been read so far; operators group to the left. -/
def body (cls : OpenClass) : ClassTerm :=
  let items := ClassTerm.ofItems cls.items.reverse
  match cls.left with
  | none => items
  | some (left, operator) => .operation operator left items

def operate (operator : SetOperator) (cls : OpenClass) : OpenClass :=
  { cls with items := [], left := some (cls.body, operator) }

/-- The beginning of a class behind its bracket: a negation, dashes, a closing bracket if it is
the first item. -/
def start (verbose : Bool) (s : Text) : OpenClass × Text :=
  let (negated, s) := match Scan.skip verbose s with
    | '^' :: s => (true, s)
    | s => (false, s)
  match Scan.take verbose (· = '-') s with
  | ([], ']' :: s) => ({ negated, items := [.atom (.char ']' false)] }, s)
  | (dashes, s) => ({ negated, items := dashes.map fun c => .atom (.char c false) }, s)

end OpenClass

namespace ClassTerm

/-- A named class such as `[:alpha:]`; anything else is left to be read as a nested class. -/
def readNamed? (s : Text) : Option (ClassTerm × Text) := do
  let s ← Text.after? "[:".toList s
  let (negated, s) := match s with
    | '^' :: s => (true, s)
    | s => (false, s)
  let name := s.takeWhile (· ≠ ':')
  let rest ← Text.after? ":]".toList (s.dropWhile (· ≠ ':'))
  return (.named (← CharSet.named? name) negated, rest)

def readAtom (verbose : Bool) : Text → Except Fault (Atom × Text)
  | [] => .error .unclosedClass
  | '\\' :: s => do
    match ← Escape.read verbose s with
    | (.atom a, rest) => return (a, rest)
    | (.mark _, _) => .error .classItem
  | c :: s => .ok (.char c false, s)

/-- One item or range of a class. -/
def readItem (verbose : Bool) (s : Text) : Except Fault (ClassTerm × Text) := do
  let (first, s) ← readAtom verbose s
  match Scan.skip verbose s with
  | [] => .error .unclosedClass
  | '-' :: s =>
    let next := Scan.peek verbose s
    if next = some ']' || next = some '-' then return (.atom first, '-' :: s)
    else
      match first, ← readAtom verbose (Scan.skip verbose s) with
      | .char a _, (.char b _, rest) =>
        if a ≤ b then .ok (.range a b, rest) else .error .classRange
      | _, _ => .error .classItem
  | s => return (.atom first, s)

/-- Reads to the end of a class whose beginning has been taken; `outer` are the classes around the
current one. Every step takes a character, so `fuel` beyond the length of the text is never used
up. -/
def readRest (verbose : Bool) :
    Nat → OpenClass → List OpenClass → Text → Except Fault (Bool × ClassTerm × Text)
  | 0, _, _, _ => .error .unclosedClass
  | fuel + 1, cls, outer, s =>
    match Scan.skip verbose s with
    | [] => .error .unclosedClass
    | '&' :: '&' :: s => readRest verbose fuel (cls.operate .inter) outer s
    | '-' :: '-' :: s => readRest verbose fuel (cls.operate .diff) outer s
    | '~' :: '~' :: s => readRest verbose fuel (cls.operate .symmetricDiff) outer s
    | ']' :: s =>
      match outer with
      | [] => .ok (cls.negated, cls.body, s)
      | parent :: outer =>
        readRest verbose fuel (parent.add (.bracketed cls.negated cls.body)) outer s
    | '[' :: s =>
      match readNamed? ('[' :: s) with
      | some (item, rest) => readRest verbose fuel (cls.add item) outer rest
      | none =>
        let (inner, rest) := OpenClass.start verbose s
        readRest verbose fuel inner (cls :: outer) rest
    | s => do
      let (item, rest) ← readItem verbose s
      readRest verbose fuel (cls.add item) outer rest

/-- A class, its outermost bracket already taken: whether it is negated, what is in it, and the
rest behind it. -/
def read (verbose : Bool) (s : Text) : Except Fault (Bool × ClassTerm × Text) :=
  let (cls, rest) := OpenClass.start verbose s
  readRest verbose (s.length + 1) cls [] rest

end ClassTerm
end ShaderPrep.Pattern
