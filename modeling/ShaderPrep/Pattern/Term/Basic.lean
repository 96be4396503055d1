import ShaderPrep.Pattern.CharSet
import ShaderPrep.Pattern.Flags

/-!
Patterns as they are written, one constructor for each way to write something, and how deep they
are nested.
-/
namespace ShaderPrep.Pattern

/-- A condition on a position. -/
inductive Mark where
  | lineStart
  | lineEnd
  | textStart
  | textEnd
  | wordEdge
  | noWordEdge
  | wordStart
  | wordEnd
  | beforeWord
  | afterWord
  deriving DecidableEq, Repr

/-- Classes that a letter stands for. -/
inductive Shorthand where
  | digit
  | blank
  | word
  deriving DecidableEq, Repr

/-- What stands for a character or a set of them, inside a class and outside. -/
inductive Atom where
  /-- `byte` if the character is written as the number of a byte. -/
  | char (c : Char) (byte : Bool)
  | shorthand (shorthand : Shorthand) (negated : Bool)
  | property (name : Text) (negated : Bool)
  deriving DecidableEq, Repr

inductive SetOperator where
  | inter
  | diff
  | symmetricDiff
  deriving DecidableEq, Repr

/-- What a class is made of. -/
inductive ClassTerm where
  | atom (atom : Atom)
  | range (first last : Char)
  /-- A named class of ASCII characters. -/
  | named (members : CharSet) (negated : Bool)
  | bracketed (negated : Bool) (body : ClassTerm)
  | union (items : List ClassTerm)
  | operation (operator : SetOperator) (left right : ClassTerm)

inductive Term where
  | empty
  | atom (atom : Atom)
  | mark (mark : Mark)
  | dot
  | bracketed (negated : Bool) (body : ClassTerm)
  | repeated (body : Term) (least : Nat) (most : Option Nat) (greedy : Bool)
  /-- A change of flags up to the end of the group around it. -/
  | flags (change : FlagChange)
  /-- A group with the number it captures under, if it has one. -/
  | group (index : Option Nat) (change : FlagChange) (body : Term)
  | seq (parts : List Term)
  | alt (branches : List Term)

namespace ClassTerm

def ofItems : List ClassTerm → ClassTerm
  | [item] => item
  | items => union items

/-- Whether the term has at most `depth` levels. -/
def fits : Nat → ClassTerm → Bool
  | depth + 1, bracketed _ body => fits depth body
  | depth + 1, union items => items.all (fits depth)
  | depth + 1, operation _ left right => fits depth left && fits depth right
  | 0, bracketed _ _ | 0, operation _ _ _ => false
  | 0, union items => items.isEmpty
  | _, _ => true

end ClassTerm

namespace Term

def ofParts : List Term → Term
  | [] => empty
  | [part] => part
  | parts => seq parts

def ofBranches : List Term → Term
  | [branch] => branch
  | branches => alt branches

/-- Whether a repetition can follow the term. -/
def isRepeatable : Term → Bool
  | empty | flags _ => false
  | _ => true

/-- Whether the term has at most `depth` levels. Repetitions, groups, sequences, choices and
brackets each make one. -/
def fits : Nat → Term → Bool
  | depth + 1, bracketed _ body => body.fits depth
  | depth + 1, repeated body _ _ _ | depth + 1, group _ _ body => fits depth body
  | depth + 1, seq parts => parts.all (fits depth)
  | depth + 1, alt branches => branches.all (fits depth)
  | 0, bracketed _ _ | 0, repeated _ _ _ _ | 0, group _ _ _ | 0, seq _ | 0, alt _ => false
  | _, _ => true

/-- The most levels a pattern may have. -/
def maxDepth : Nat := 250

end Term
end ShaderPrep.Pattern
