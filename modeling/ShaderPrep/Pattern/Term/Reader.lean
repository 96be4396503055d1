import ShaderPrep.Pattern.Term.Bracket
import ShaderPrep.Pattern.Term.Repetition
import ShaderPrep.Unicode.Derived

/-!
Terms read from their spelling. Open groups are kept on a stack, so one loop over the text reads
everything; each of its steps takes at least one character.
-/
namespace ShaderPrep.Pattern

/-- What surrounds the group being read, and how that group began. -/
structure OpenGroup where
  parts : List Term
  branches : List Term
  verbose : Bool
  index : Option Nat
  change : FlagChange

/-- The state of the loop: the parts of the current branch and the branches before it in the
innermost group, latest first; the groups around it; the names of groups, and how many groups
capture. -/
structure Reader where
  parts : List Term := []
  branches : List Term := []
  verbose : Bool := false
  groups : List OpenGroup := []
  names : List Text := []
  captures : Nat := 0

namespace Reader

/-- The term of the innermost group. -/
def term (r : Reader) : Term :=
  Term.ofBranches ((Term.ofParts r.parts.reverse :: r.branches).reverse)

def push (r : Reader) (t : Term) : Reader := { r with parts := t :: r.parts }

def alternate (r : Reader) : Reader :=
  { r with parts := [], branches := Term.ofParts r.parts.reverse :: r.branches }

def openGroup (r : Reader) (index : Option Nat) (change : FlagChange) : Reader :=
  { r with
    parts := [], branches := [], verbose := (change.on? .verbose).getD r.verbose,
    groups := ⟨r.parts, r.branches, r.verbose, index, change⟩ :: r.groups }

/-- A group that captures. -/
def openCapture (r : Reader) : Reader :=
  { r with captures := r.captures + 1 }.openGroup (some (r.captures + 1)) []

def closeGroup (r : Reader) : Except Fault Reader :=
  match r.groups with
  | [] => .error .unopenedGroup
  | group :: groups => .ok
    { r with
      parts := .group group.index group.change r.term :: group.parts, branches := group.branches,
      verbose := group.verbose, groups }

/-- Puts the last part under a repetition. -/
def repeatLast (r : Reader) (repetition : Repetition) : Except Fault Reader :=
  match r.parts with
  | t :: parts =>
    if t.isRepeatable then
      .ok { r with
        parts := .repeated t repetition.least repetition.most repetition.greedy :: parts }
    else .error .nothingToRepeat
  | [] => .error .nothingToRepeat

/-- Changes flags for the rest of the group. -/
def changeFlags (r : Reader) (change : FlagChange) : Reader :=
  { r.push (.flags change) with verbose := (change.on? .verbose).getD r.verbose }

end Reader

/-- Names of groups begin with a letter or an underscore; digits and numbers, dots and brackets may
follow. -/
def isNameChar (first : Bool) (c : Char) : Bool :=
  c = '_' || Unicode.Property.alphabetic.holds c ||
    (!first &&
      (c = '.' || c = '[' || c = ']' || (Unicode.Category.members ["Nd", "Nl", "No"]).holds c))

/-- The name of a group, up to its closing angle. -/
def readGroupName (s : Text) : Except Fault (Text × Text) :=
  match s.takeWhile (· ≠ '>'), s.dropWhile (· ≠ '>') with
  | c :: name, _ :: rest =>
    if isNameChar true c && name.all (isNameChar false) then .ok (c :: name, rest)
    else .error .groupName
  | _, _ => .error .groupName

/-- Flags up to a colon or a parenthesis, which is not taken; `seen` holds the signs so far. -/
def readFlags (on : Bool) (seen : Text) : Text → Except Fault (FlagChange × Text)
  | [] => .error .flag
  | c :: s =>
    if c = ':' || c = ')' then
      if seen.head? = some '-' then .error .flag else .ok ([], c :: s)
    else if seen.contains c then .error .flag
    else if c = '-' then readFlags false ('-' :: seen) s
    else
      match Flag.ofLetter? c with
      | some flag => do
        let (change, rest) ← readFlags on (c :: seen) s
        return ((flag, on) :: change, rest)
      | none => .error .flag

/-- What an opening parenthesis begins: a group, or a change of flags. -/
def readGroup (r : Reader) (s : Text) : Except Fault (Reader × Text) :=
  let named (s : Text) : Except Fault (Reader × Text) := do
    let (name, rest) ← readGroupName s
    if r.names.contains name then .error .duplicateGroupName
    else return ({ r with names := name :: r.names }.openCapture, rest)
  match Scan.skip r.verbose s with
  | '?' :: '=' :: _ | '?' :: '!' :: _ => .error .lookAround
  | '?' :: '<' :: '=' :: _ | '?' :: '<' :: '!' :: _ => .error .lookAround
  | '?' :: 'P' :: '<' :: s => named s
  | '?' :: '<' :: s => named s
  | '?' :: s => do
    match ← readFlags true [] s with
    | (change, ':' :: rest) => return (r.openGroup none change, rest)
    | (change, _ :: rest) =>
      if s.head? = some ')' then .error .nothingToRepeat
      else return (r.changeFlags change, rest)
    | (_, []) => .error .unclosedGroup
  | s => .ok (r.openCapture, s)

/-- One step of the loop at the character `c`. -/
def Reader.step (r : Reader) (c : Char) (s : Text) : Except Fault (Reader × Text) :=
  match c with
  | '(' => readGroup r s
  | ')' => do return (← r.closeGroup, s)
  | '|' => .ok (r.alternate, s)
  | '[' => do
    let (negated, body, rest) ← ClassTerm.read r.verbose s
    return (r.push (.bracketed negated body), rest)
  | '{' => do
    let (repetition, rest) ← Repetition.readBounds r.verbose s
    return (← r.repeatLast repetition, rest)
  | '\\' => do
    match ← Escape.read r.verbose s with
    | (.atom atom, rest) => return (r.push (.atom atom), rest)
    | (.mark mark, rest) => return (r.push (.mark mark), rest)
  | '.' => .ok (r.push .dot, s)
  | '^' => .ok (r.push (.mark .lineStart), s)
  | '$' => .ok (r.push (.mark .lineEnd), s)
  | c =>
    match Repetition.ofSign? c with
    | some (least, most) => do
      let (greedy, rest) := Repetition.readGreed s
      return (← r.repeatLast { least, most, greedy }, rest)
    | none => .ok (r.push (.atom (.char c false)), s)

/-- The loop. Every step takes a character, so `fuel` beyond the length of the text is never used
up. -/
def Reader.run : Nat → Reader → Text → Except Fault Reader
  | 0, r, _ => .ok r
  | fuel + 1, r, s =>
    match Scan.skip r.verbose s with
    | [] => .ok r
    | c :: s => do
      let (r, rest) ← r.step c s
      Reader.run fuel r rest

/-- The term that a text spells. -/
def Term.read (s : Text) : Except Fault Term := do
  let r ← Reader.run (s.length + 1) {} s
  if !r.groups.isEmpty then .error .unclosedGroup
  else if r.term.fits maxDepth then return r.term
  else .error .tooDeep

end ShaderPrep.Pattern
