import ShaderPrep.Pattern.Basic
import Std.Data.HashSet

/-!
Machines that find matches. The threads of a machine stand at addresses, the preferred one first.
Between two characters each thread runs on to where it takes a character; a thread that comes to an
address where one has been is given up, and so are all behind the first that ends. Threads at one
address have the same future, so all starts of a match are followed at once.
-/
namespace ShaderPrep.Pattern

inductive Instruction where
  | take (members : CharSet)
  | check (assertion : Assertion)
  | goto (target : Nat)
  /-- Goes both ways, the first one preferred. -/
  | fork (first second : Nat)
  deriving DecidableEq, Repr

/-- Another round or none, as the repetition prefers. -/
def Instruction.round (greedy : Bool) (again out : Nat) : Instruction :=
  if greedy then .fork again out else .fork out again

mutual

/-- How many instructions a pattern takes. -/
def width : Pattern → Nat
  | empty => 0
  | literal text => text.length
  | oneOf _ | assertion _ => 1
  | repeated body least most _ =>
    match least, most with
    | 0, none => body.width + 2
    | least, none => least * body.width + 1
    | least, some most => least * body.width + (most - least) * (body.width + 1)
  | capture _ body => body.width
  | seq parts => widthSeq parts
  | alt branches => widthAlt branches

def widthSeq : List Pattern → Nat
  | [] => 0
  | p :: ps => p.width + widthSeq ps

def widthAlt : List Pattern → Nat
  | [] => 0
  | [p] => p.width
  | p :: ps => p.width + 2 + widthAlt ps

end

/-- A body `n` times one behind the other; `width` is how many instructions it has. -/
def copies (body : Nat → List Instruction) (width n here : Nat) : List Instruction :=
  (List.range n).flatMap fun i => body (here + i * width)

/-- A body up to `n` times, each round only behind the one before it. -/
def options (body : Nat → List Instruction) (width : Nat) (greedy : Bool) (n here : Nat) :
    List Instruction :=
  (List.range n).flatMap fun i =>
    let start := here + i * (width + 1) + 1
    .round greedy start (here + n * (width + 1)) :: body start

/-- A body any number of times. The rounds share one fork if every round takes a character;
otherwise the first round has a fork of its own, so that an empty round ends the repetition where
it would have gone on. -/
def rounds (body : Nat → List Instruction) (width : Nat) (takes greedy : Bool) (here : Nat) :
    List Instruction :=
  let fork := Instruction.round greedy (here + 1) (here + width + 2)
  fork :: body (here + 1) ++ [if takes then .goto here else fork]

/-- A body as often as the bounds say. -/
def repetition (body : Nat → List Instruction) (width : Nat) (takes greedy : Bool) (least : Nat)
    (most : Option Nat) (here : Nat) : List Instruction :=
  let behind := here + least * width
  match least, most with
  | 0, none => rounds body width takes greedy here
  | least, none =>
    copies body width least here ++ [.round greedy (behind - width) (behind + 1)]
  | least, some most =>
    copies body width least here ++ options body width greedy (most - least) behind

mutual

/-- The instructions for a pattern from the address `here` on; a match runs off their end. -/
def code : Pattern → Nat → List Instruction
  | empty, _ => []
  | literal text, _ => text.map fun c => .take (CharSet.single c)
  | oneOf members, _ => [.take members]
  | assertion a, _ => [.check a]
  | repeated body least most greedy, here =>
    repetition (code body) body.width (body.minLength.any (0 < ·)) greedy least most here
  | capture _ body, here => code body here
  | seq parts, here => codeSeq parts here
  | alt branches, here => codeAlt (here + widthAlt branches) branches here

def codeSeq : List Pattern → Nat → List Instruction
  | [], _ => []
  | p :: ps, here =>
    let first := code p here
    first ++ codeSeq ps (here + first.length)

/-- Branches that all go on at `behind`. -/
def codeAlt (behind : Nat) : List Pattern → Nat → List Instruction
  | [], _ => []
  | [p], here => code p here
  | p :: ps, here =>
    let first := code p (here + 1)
    let middle := here + first.length + 2
    .fork (here + 1) middle :: first ++ .goto behind :: codeAlt behind ps middle

end

abbrev Machine := Array Instruction

def machine (p : Pattern) : Machine := (code p 0).toArray

/-- Where a match begins and ends. -/
structure Match where
  start : Nat
  stop : Nat
  deriving DecidableEq, Repr

/-- Where a thread stands, and where the match begins that it is after. -/
structure Thread where
  start : Nat
  address : Nat := 0
  deriving DecidableEq, Repr

namespace Machine

/-- The characters that can be taken next, each with the thread behind it, in order of preference;
and where the match of a thread begins that ended, those behind it being given up. -/
structure Front where
  takes : List (CharSet × Thread) := []
  ended : Option Nat := none

/-- Runs the threads on between two characters. `seen` holds the addresses where one has been,
`takes` what is found so far, latest first, and `fuel` bounds the steps. -/
def run (m : Machine) (previous next : Option Char) :
    Nat → List Thread → Std.HashSet Nat → List (CharSet × Thread) → Front
  | 0, _, _, takes => { takes := takes.reverse }
  | _, [], _, takes => { takes := takes.reverse }
  | fuel + 1, thread :: threads, seen, takes =>
    if seen.contains thread.address then run m previous next fuel threads seen takes
    else
      let seen := seen.insert thread.address
      let moved (address : Nat) : Thread := { thread with address }
      match m[thread.address]? with
      | none => { takes := takes.reverse, ended := some thread.start }
      | some (.take members) =>
        run m previous next fuel threads seen ((members, moved (thread.address + 1)) :: takes)
      | some (.check a) =>
        let threads :=
          if a.holds previous next then moved (thread.address + 1) :: threads else threads
        run m previous next fuel threads seen takes
      | some (.goto target) => run m previous next fuel (moved target :: threads) seen takes
      | some (.fork first second) =>
        run m previous next fuel (moved first :: moved second :: threads) seen takes

/-- The front of some threads. An instruction is run once and leaves two threads at most, which
bounds the steps. -/
def front (m : Machine) (previous next : Option Char) (threads : List Thread) : Front :=
  m.run previous next (threads.length + 2 * m.size + 1) threads ∅ []

/-- The threads behind the character `c`. -/
def Front.advance (front : Front) (c : Char) : List Thread :=
  (front.takes.filter fun (members, _) => members.holds c).map Prod.snd

/-- The match that ends at a position, if one does, or else the one found before. -/
def Front.best (front : Front) (position : Nat) (best : Option Match) : Option Match :=
  match front.ended with
  | some start => some ⟨start, position⟩
  | none => best

/-- As long as no match is found, one may also begin at the position, which is preferred least. -/
def begun (threads : List Thread) (position : Nat) : Option Match → List Thread
  | some _ => threads
  | none => threads ++ [{ start := position }]

/-- The match found by going on with some threads; `best` is the one found so far. Threads of an
earlier start go first, so the leftmost match is found, in one pass. -/
def search (m : Machine) (threads : List Thread) (previous : Option Char) (position : Nat)
    (best : Option Match) : Text → Option Match
  | [] => (m.front previous none (begun threads position best)).best position best
  | c :: s =>
    let front := m.front previous (some c) (begun threads position best)
    let best := front.best position best
    let threads := front.advance c
    if threads.isEmpty && best.isSome then best
    else search m threads (some c) (position + 1) best s

/-- The leftmost match in a text that has `previous` in front of it. -/
def find? (m : Machine) (previous : Option Char) (s : Text) : Option Match :=
  m.search [] previous 0 none s

end Machine
end ShaderPrep.Pattern
