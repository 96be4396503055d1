import ShaderPrep.Pattern.Basic
import ShaderPrep.Pattern.Footprint.Shared
import ShaderPrep.Pattern.Footprint.Words

/-!
How large the machines are that match a pattern byte by byte, forwards and backwards. A pattern with
a machine beyond the limit is refused, so that no text can ask for more room than that.
-/
namespace ShaderPrep.Pattern

inductive Direction where
  | forward
  | backward
  deriving DecidableEq, Repr

namespace Draft

def set (dir : Direction) (members : CharSet) (d : Draft) : Draft :=
  if members.all fun (_, hi) => hi < 128 then (d.add 1).ranges members.length
  else
    match dir with
    | .forward => d.forwardSet members
    | .backward => d.backwardSet members

/-- A part any number of times. The rounds share one state if each of them takes a character;
otherwise the first one has a state of its own. -/
def star (takes : Bool) (part : Draft → Draft) (d : Draft) : Draft :=
  if takes then ((part (d.add 1)).follow.branch 1).leaveOpen
  else ((part d).follow.add 3).branch 4

/-- A part up to `n` more times, each way out going to one state. -/
def upTo (part : Draft → Draft) : Nat → Draft → Draft
  | 0, d => d
  | n + 1, d => if d.isOver then d else upTo part n ((part (d.add 1)).follow.branch 2)

/-- A part as often as the bounds say. -/
def rounds (takes : Bool) (part : Draft → Draft) (least : Nat) (most : Option Nat) (d : Draft) :
    Draft :=
  match least, most with
  | 0, none => star takes part d
  | least, none => (((d.copies part least).follow.add 1).branch 1).leaveOpen
  | 0, some 1 => ((part (d.add 1)).follow.add 1).branch 2
  | least, some most =>
    let first := if least = 0 then d.add 1 else d.copies part least
    if most ≤ least then first else upTo part (most - least) (first.follow.add 1)

end Draft

/-- The texts of literals, as bytes in the order they are read. -/
def literalWords? (dir : Direction) (ps : List Pattern) : Option (List Words.Word) :=
  ps.mapM fun
    | literal text =>
      let word := text.flatMap fun c => Bytes.encode c.toNat
      some (if dir = .forward then word else word.reverse)
    | _ => none

mutual

/-- Drafts a pattern behind what has been drafted. -/
def draft (dir : Direction) : Pattern → Draft → Draft
  | empty, d => d.add 1
  | literal text, d => d.add (Text.byteSize text)
  | oneOf members, d => d.set dir members
  | assertion _, d => d.add 1
  | repeated body least most _, d =>
    d.rounds (body.minLength.any (0 < ·)) (body.draft dir) least most
  | capture _ body, d =>
    match dir with
    | .forward => (body.draft dir (d.add 1)).follow.add 1
    | .backward => body.draft dir d
  | seq parts, d =>
    match dir with
    | .forward => draftForward parts d
    | .backward => draftBackward parts d
  | alt branches, d =>
    match literalWords? dir branches with
    | some words => Words.draft words d
    | none => draftBranches dir 0 branches d

def draftForward : List Pattern → Draft → Draft
  | [], d => d
  | p :: ps, d => draftForward ps (p.draft .forward d.follow)

def draftBackward : List Pattern → Draft → Draft
  | [], d => d
  | p :: ps, d => p.draft .backward (draftBackward ps d).follow

/-- Branches; the states where they part and meet are drafted behind the second one. -/
def draftBranches (dir : Direction) (before : Nat) : List Pattern → Draft → Draft
  | [], d => d
  | p :: ps, d =>
    let d := (p.draft dir d).follow.branch 1
    draftBranches dir (before + 1) ps (if before = 1 then d.add 2 else d)

end

/-- Whether matches lie at the edge of the text from which it is read. -/
def isAnchored (dir : Direction) (p : Pattern) : Bool :=
  match dir with
  | .forward => p.opensWith .textStart
  | .backward => p.closesWith .textEnd

/-- The draft of the whole machine: unless the pattern is anchored, it first skips any bytes; a
match is captured forwards. -/
def machineDraft (dir : Direction) (p : Pattern) : Draft :=
  let skip : Draft :=
    if p.isAnchored dir then { states := 1 } else (Draft.add {} 2).ranges 1 |>.branch 2
  (draft dir (capture 0 p) skip).follow.add 1

/-- Whether the machines of both directions have room. -/
def hasRoom (p : Pattern) : Bool :=
  !(p.machineDraft .forward).isOver && !(p.machineDraft .backward).isOver

end ShaderPrep.Pattern
