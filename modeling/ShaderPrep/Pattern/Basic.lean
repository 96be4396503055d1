import ShaderPrep.Pattern.CharSet

/-!
Patterns, and what they say of a position between two characters. Repetitions and choices name the
way they prefer; `Machine` gives them their meaning.
-/
namespace ShaderPrep

/-- A condition on the characters next to a position. -/
inductive Assertion where
  | textStart
  | textEnd
  | lineStart (carriageReturns : Bool)
  | lineEnd (carriageReturns : Bool)
  | wordEdge (ascii : Bool)
  | noWordEdge (ascii : Bool)
  | wordStart (ascii : Bool)
  | wordEnd (ascii : Bool)
  | beforeWord (ascii : Bool)
  | afterWord (ascii : Bool)
  deriving DecidableEq, Repr

inductive Pattern where
  | empty
  /-- These characters one after the other. -/
  | literal (text : Text)
  | oneOf (members : Pattern.CharSet)
  | assertion (assertion : Assertion)
  /-- At least `least` times, and at most `most` times if there is such a bound. -/
  | repeated (body : Pattern) (least : Nat) (most : Option Nat) (greedy : Bool)
  | capture (index : Nat) (body : Pattern)
  | seq (parts : List Pattern)
  | alt (branches : List Pattern)

namespace Assertion

def isWordAt (ascii : Bool) : Option Char → Bool
  | none => false
  | some c => (if ascii then Pattern.CharSet.asciiWord else Pattern.CharSet.word).holds c

def holds (previous next : Option Char) : Assertion → Bool
  | textStart => previous.isNone
  | textEnd => next.isNone
  | lineStart false => previous.isNone || previous = some '\n'
  | lineStart true =>
    previous.isNone || previous = some '\n' || (previous = some '\r' && next ≠ some '\n')
  | lineEnd false => next.isNone || next = some '\n'
  | lineEnd true =>
    next.isNone || next = some '\r' || (next = some '\n' && previous ≠ some '\r')
  | wordEdge ascii => isWordAt ascii previous != isWordAt ascii next
  | noWordEdge ascii => isWordAt ascii previous == isWordAt ascii next
  | wordStart ascii => !isWordAt ascii previous && isWordAt ascii next
  | wordEnd ascii => isWordAt ascii previous && !isWordAt ascii next
  | beforeWord ascii => !isWordAt ascii previous
  | afterWord ascii => !isWordAt ascii next

end Assertion

namespace Pattern

/-! Sizes and lengths -/

mutual

/-- How many nodes the pattern has. -/
def size : Pattern → Nat
  | repeated body _ _ _ => body.size + 1
  | capture _ body => body.size + 1
  | seq parts => sizeAll parts + 1
  | alt branches => sizeAll branches + 1
  | _ => 1

def sizeAll : List Pattern → Nat
  | [] => 0
  | p :: ps => p.size + sizeAll ps

end

mutual

/-- The least number of characters that a match has; none if a part of the pattern is a class
without members. -/
def minLength : Pattern → Option Nat
  | empty | assertion _ => some 0
  | literal text => some text.length
  | oneOf members => if members.isEmpty then none else some 1
  | repeated body least _ _ => body.minLength.map (least * ·)
  | capture _ body => body.minLength
  | seq parts => minLengthSeq parts
  | alt branches => minLengthAlt branches

def minLengthSeq : List Pattern → Option Nat
  | [] => some 0
  | p :: ps => do return (← p.minLength) + (← minLengthSeq ps)

def minLengthAlt : List Pattern → Option Nat
  | [] => none
  | [p] => p.minLength
  | p :: ps => do return min (← p.minLength) (← minLengthAlt ps)

end

mutual

/-- Whether no match takes a character, as far as the pattern shows. -/
def isHollow : Pattern → Bool
  | empty | assertion _ => true
  | literal text => text.isEmpty
  | oneOf _ => false
  | repeated body _ most _ => body.isHollow && most.isSome
  | capture _ body => body.isHollow
  | seq parts => allHollow parts
  | alt branches => allHollow branches

def allHollow : List Pattern → Bool
  | [] => true
  | p :: ps => p.isHollow && allHollow ps

end

mutual

/-- Whether every match begins where the condition holds, as far as the pattern shows. -/
def opensWith (a : Assertion) : Pattern → Bool
  | assertion b => a = b
  | repeated body least _ _ => 0 < least && body.opensWith a
  | capture _ body => body.opensWith a
  | seq parts => seqOpensWith a parts
  | alt branches => allOpenWith a branches
  | _ => false

def seqOpensWith (a : Assertion) : List Pattern → Bool
  | [] => false
  | p :: ps => p.opensWith a || (p.isHollow && seqOpensWith a ps)

def allOpenWith (a : Assertion) : List Pattern → Bool
  | [] => true
  | p :: ps => p.opensWith a && allOpenWith a ps

end

mutual

/-- Whether every match ends where the condition holds, as far as the pattern shows. -/
def closesWith (a : Assertion) : Pattern → Bool
  | assertion b => a = b
  | repeated body least _ _ => 0 < least && body.closesWith a
  | capture _ body => body.closesWith a
  | seq parts => seqClosesWith a parts
  | alt branches => allCloseWith a branches
  | _ => false

def seqClosesWith (a : Assertion) : List Pattern → Bool
  | [] => false
  | p :: ps => seqClosesWith a ps || (allHollow ps && p.closesWith a)

def allCloseWith (a : Assertion) : List Pattern → Bool
  | [] => true
  | p :: ps => p.closesWith a && allCloseWith a ps

end

mutual

/-- Equality, decided by the way the patterns are built. -/
def same : Pattern → Pattern → Bool
  | empty, empty => true
  | literal s, literal t => s == t
  | oneOf a, oneOf b => a == b
  | assertion a, assertion b => a = b
  | repeated p least most greedy, repeated q least' most' greedy' =>
    least = least' && most = most' && greedy = greedy' && same p q
  | capture i p, capture j q => i = j && same p q
  | seq ps, seq qs => sameAll ps qs
  | alt ps, alt qs => sameAll ps qs
  | _, _ => false

def sameAll : List Pattern → List Pattern → Bool
  | [], [] => true
  | p :: ps, q :: qs => same p q && sameAll ps qs
  | _, _ => false

end

/-! Patterns in short form -/

/-- One character of a set. -/
def ofSet (members : CharSet) : Pattern :=
  match members.only? with
  | some n => literal [Char.ofNat n]
  | none => oneOf members

/-- A body without characters counts at most once. -/
def ofRepetition (body : Pattern) (least : Nat) (most : Option Nat) (greedy : Bool) : Pattern :=
  let hollow := body.isHollow
  let least := if hollow then min least 1 else least
  let most := if hollow then some (min (most.getD 1) 1) else most
  if least = 0 && most = some 0 then empty
  else if least = 1 && most = some 1 then body
  else repeated body least most greedy

/-- The parts that a pattern adds to a sequence. -/
def parts : Pattern → List Pattern
  | empty => []
  | seq parts => parts
  | p => [p]

/-- Puts a part in front of others; neighbouring literals join. -/
def addPart (p : Pattern) (others : List Pattern) : List Pattern :=
  match p, others with
  | literal s, literal t :: others => literal (s ++ t) :: others
  | p, others => p :: others

/-- Patterns one after the other. -/
def ofSeq (ps : List Pattern) : Pattern :=
  match (ps.flatMap parts).foldr addPart [] with
  | [] => empty
  | [p] => p
  | ps => seq ps

/-- The branches that a pattern adds to a choice. -/
def branches : Pattern → List Pattern
  | alt branches => branches
  | p => [p]

/-- The set of a choice between single characters, or between sets. -/
def choiceSet? (ps : List Pattern) : Option CharSet :=
  let single : Pattern → Option CharSet
    | literal [c] => some (CharSet.single c)
    | _ => none
  let set : Pattern → Option CharSet
    | oneOf members => some members
    | _ => none
  (ps.mapM single <|> ps.mapM set).map fun sets => Unicode.Ranges.ofRanges sets.flatten

/-- How many parts two sequences begin with in common. -/
def commonLength : List Pattern → List Pattern → Nat
  | p :: ps, q :: qs => if p.same q then commonLength ps qs + 1 else 0
  | _, _ => 0

/-- How many parts all branches begin with in common, with the branches as sequences. -/
def commonParts? (ps : List Pattern) : Option (Nat × List (List Pattern)) := do
  let sequences ← ps.mapM fun
    | seq parts => some parts
    | _ => none
  match sequences with
  | [] => none
  | first :: others =>
    let n := others.foldl (fun n other => min n (commonLength first other)) first.length
    if n = 0 then none else some (n, sequences)

/-- A choice. What all branches begin with stands in front of it; each time this takes a node of
the first branch away, so `fuel` beyond their number is never used up. -/
def ofAltFrom : Nat → List Pattern → Pattern
  | 0, ps => alt ps
  | fuel + 1, ps =>
    match ps.flatMap branches with
    | [] => oneOf []
    | [p] => p
    | ps =>
      match choiceSet? ps, commonParts? ps with
      | some set, _ => ofSet set
      | none, some (n, sequences) =>
        ofSeq ((sequences.headD []).take n ++
          [ofAltFrom fuel (sequences.map fun parts => ofSeq (parts.drop n))])
      | none, none => alt ps

def ofAlt (ps : List Pattern) : Pattern := ofAltFrom (sizeAll ps + 1) ps

end Pattern
end ShaderPrep
