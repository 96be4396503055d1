import ShaderPrep.Pattern.Term.Basic
import ShaderPrep.Pattern.Term.Scan

/-!
Repetitions: the signs behind a term that say how often it counts.
-/
namespace ShaderPrep.Pattern

/-- How often, and whether rather more often than less. -/
structure Repetition where
  least : Nat
  most : Option Nat
  greedy : Bool
  deriving DecidableEq, Repr

namespace Repetition

/-- Whether a repetition takes as much as it can: not if a mark follows at once. -/
def readGreed : Text → Bool × Text
  | '?' :: s => (false, s)
  | s => (true, s)

/-- The bounds of the signs that stand alone. -/
def ofSign? : Char → Option (Nat × Option Nat)
  | '?' => some (0, some 1)
  | '*' => some (0, none)
  | '+' => some (1, none)
  | _ => none

/-- Largest count. -/
def maxCount : Nat := 0xFFFFFFFF

/-- A count, blanks around it allowed; none if there are no digits. -/
def readCount (verbose : Bool) (s : Text) : Except Fault (Option Nat × Text) :=
  let (digits, rest) := Scan.take verbose Char.isDigit (s.dropWhile Unicode.isBlank)
  let rest := Scan.skip verbose (rest.dropWhile Unicode.isBlank)
  let n := digits.foldl (fun n c => min (n * 10 + (c.toNat - 48)) (maxCount + 1)) 0
  if digits.isEmpty then .ok (none, rest)
  else if n ≤ maxCount then .ok (some n, rest)
  else .error .repetitionCount

/-- The upper bound behind the lower one `least`: the same without a comma, none if nothing
follows the comma. -/
def readMost (verbose : Bool) (least : Option Nat) : Text → Except Fault (Option Nat × Text)
  | ',' :: s =>
    match Scan.skip verbose s with
    | '}' :: rest => .ok (none, '}' :: rest)
    | s => do
      let (most, rest) ← readCount verbose s
      if most.isSome then .ok (most, rest) else .error .repetitionCount
  | s => .ok (least, s)

/-- Bounds in braces, the opening one already taken. -/
def readBounds (verbose : Bool) (s : Text) : Except Fault (Repetition × Text) := do
  let (least, s) ← readCount verbose (Scan.skip verbose s)
  let (most, s) ← readMost verbose least s
  match least, s with
  | some least, '}' :: s =>
    let (greedy, s) := readGreed (Scan.skip verbose s)
    if most.getD least < least then .error .repetitionCount
    else return ({ least, most, greedy }, s)
  | _, _ => .error .repetitionCount

end Repetition
end ShaderPrep.Pattern
