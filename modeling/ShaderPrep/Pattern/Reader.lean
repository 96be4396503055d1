import ShaderPrep.Pattern.Footprint
import ShaderPrep.Pattern.Term.Reader
import ShaderPrep.Unicode.Named

/-!
Patterns read from their usual spelling: a text spells a term, the term means a pattern under the
flags that hold where it stands, and the pattern may not take too much room. A pattern matches
characters, never bytes that are none, so without the Unicode flag sets stay within ASCII and none
of them is turned around.
-/
namespace ShaderPrep.Pattern

open Unicode

def Mark.assertion (flags : Flags) : Mark → Assertion
  | lineStart => if flags.multiline then .lineStart flags.carriageReturns else .textStart
  | lineEnd => if flags.multiline then .lineEnd flags.carriageReturns else .textEnd
  | textStart => .textStart
  | textEnd => .textEnd
  | wordEdge => .wordEdge (!flags.unicode)
  | noWordEdge => .noWordEdge (!flags.unicode)
  | wordStart => .wordStart (!flags.unicode)
  | wordEnd => .wordEnd (!flags.unicode)
  | beforeWord => .beforeWord (!flags.unicode)
  | afterWord => .afterWord (!flags.unicode)

namespace Flags

/-- The set, with the other cases of its members in caseless mode. -/
def fold (flags : Flags) (set : CharSet) : CharSet :=
  if !flags.caseless then set
  else if flags.unicode then set.closeUnderCase
  else set.closeUnderAsciiCase

/-- The set or its complement. -/
def turn (flags : Flags) (negated : Bool) (set : CharSet) : Except Fault CharSet :=
  if !negated then .ok set
  else if flags.unicode then .ok (Ranges.complement set)
  else .error .notUnicode

end Flags

def Shorthand.members (unicode : Bool) : Shorthand → CharSet
  | digit => if unicode then .digit else .asciiDigit
  | blank => if unicode then .blank else .asciiBlank
  | word => if unicode then .word else .asciiWord

/-- The set of a property; case counts before negation. -/
def propertySet (flags : Flags) (name : Text) (negated : Bool) : Except Fault CharSet :=
  if !flags.unicode then .error .notUnicode
  else
    match asked? name with
    | some set => flags.turn negated (flags.fold set)
    | none => .error .unknownProperty

/-- The set that an atom puts into a class. -/
def Atom.members (flags : Flags) : Atom → Except Fault CharSet
  | char c _ => if flags.unicode || c.toNat < 128 then .ok (.single c) else .error .notUnicode
  | shorthand s negated => flags.turn negated (s.members flags.unicode)
  | property name negated => propertySet flags name negated

/-- The pattern of an atom outside classes. -/
def Atom.pattern (flags : Flags) : Atom → Except Fault Pattern
  | char c byte =>
    if !flags.unicode && byte && 128 ≤ c.toNat then .error .notUnicode
    else .ok (.ofSet (flags.fold (.single c)))
  | shorthand s negated => .ofSet <$> flags.turn negated (s.members flags.unicode)
  | property name negated => .ofSet <$> propertySet flags name negated

def SetOperator.apply : SetOperator → CharSet → CharSet → CharSet
  | inter => Ranges.inter
  | diff => Ranges.diff
  | symmetricDiff => Ranges.symmetricDiff

namespace ClassTerm

mutual

/-- The members of a class; the sides of an operation are closed under case before it. -/
def members (flags : Flags) : ClassTerm → Except Fault CharSet
  | atom a => a.members flags
  | range first last =>
    if flags.unicode || last.toNat < 128 then .ok [(first.toNat, last.toNat)]
    else .error .notUnicode
  | named set negated => flags.turn negated (flags.fold set)
  | bracketed negated body => do flags.turn negated (flags.fold (← body.members flags))
  | union items => do return Ranges.ofRanges (← itemRanges flags items)
  | operation operator left right => do
    let left ← left.members flags
    let right ← right.members flags
    return operator.apply (flags.fold left) (flags.fold right)

def itemRanges (flags : Flags) : List ClassTerm → Except Fault (List (Nat × Nat))
  | [] => .ok []
  | item :: items => do
    let set ← item.members flags
    return set ++ (← itemRanges flags items)

end

end ClassTerm

namespace Term

/-- Any character, but for the ends of lines. -/
def dotMembers (flags : Flags) : Except Fault CharSet :=
  if !flags.unicode then .error .notUnicode
  else if flags.dotAll then .ok (Ranges.complement [])
  else if flags.carriageReturns then .ok (Ranges.complement [(10, 10), (13, 13)])
  else .ok (Ranges.complement [(10, 10)])

mutual

/-- The pattern of a term, and the flags behind it: a change of flags lasts to the end of the group
around it. -/
def pattern (flags : Flags) : Term → Except Fault (Pattern × Flags)
  | empty => .ok (.empty, flags)
  | atom a => do return (← a.pattern flags, flags)
  | mark m => .ok (.assertion (m.assertion flags), flags)
  | dot => do return (.ofSet (← dotMembers flags), flags)
  | bracketed negated body => do
    return (.ofSet (← (ClassTerm.bracketed negated body).members flags), flags)
  | repeated body least most greedy => do
    let (p, flags) ← body.pattern flags
    return (.ofRepetition p least most (greedy != flags.swapGreed), flags)
  | Term.flags change => .ok (.empty, flags.change change)
  | group index change body => do
    let (p, _) ← body.pattern (flags.change change)
    return (match index with
      | some i => .capture i p
      | none => p, flags)
  | seq parts => do
    let (ps, flags) ← patterns flags parts
    return (.ofSeq ps, flags)
  | alt branches => do
    let (ps, flags) ← patterns flags branches
    return (.ofAlt ps, flags)

def patterns (flags : Flags) : List Term → Except Fault (List Pattern × Flags)
  | [] => .ok ([], flags)
  | t :: ts => do
    let (p, flags) ← t.pattern flags
    let (ps, flags) ← patterns flags ts
    return (p :: ps, flags)

end

end Term

/-- The pattern that a text spells. -/
def read (s : Text) : Except Fault Pattern := do
  let term ← Term.read s
  let (pattern, _) ← term.pattern {}
  if pattern.hasRoom then return pattern else .error .tooLarge

end ShaderPrep.Pattern
