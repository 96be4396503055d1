import ShaderPrep.Guard.Basic
import ShaderPrep.Guard.Call
import ShaderPrep.Guard.Rpn
import ShaderPrep.Journal

/-!
Guards read from conditions. Nothing is refused: a junction that lacks an operand is skipped, and
what is no test of another kind tests whether a symbol of that text is defined.
-/
namespace ShaderPrep.Guard

/-- The first comparison of the search order that occurs, with the trimmed sides of its first
occurrence. -/
def comparison? (operand : Text) : List Comparison → Option Guard
  | [] => none
  | comparison :: rest =>
    match Text.cut? comparison.sign operand with
    | some (symbol, value) => some (.compare symbol.trim comparison value.trim)
    | none => comparison? operand rest

/-- One test: a call of `defined`, a comparison, or the presence of a symbol. -/
def ofOperand (operand : Text) : Guard :=
  match Call.widest? operand with
  | some argument => .defined argument.trim (operand.head? = some '!')
  | none => (comparison? operand Comparison.all).getD (.defined operand false)

/-- An operand that becomes a test only once something is made of it, or a guard already made. -/
inductive Part where
  | operand (text : Text)
  | guard (guard : Guard)
  deriving DecidableEq, Repr

namespace Part

def toGuard : Part → Guard
  | operand text => ofOperand (Call.restore text)
  | guard g => g

end Part

def ofJunction : Junction → Guard → Guard → Guard
  | .and => .and
  | .or => .or

/-- The parts not yet joined, the latest first, and the junctions skipped. -/
structure Reduction where
  parts : List Part := []
  skipped : List Junction := []

def Reduction.step : Reduction → Rpn → Reduction
  | r, .operand text => { r with parts := .operand text :: r.parts }
  | ⟨right :: left :: parts, skipped⟩, .junction j =>
    ⟨.guard (ofJunction j left.toGuard right.toGuard) :: parts, skipped⟩
  | r, .junction j => { r with skipped := r.skipped ++ [j] }

def reduce (rpn : List Rpn) : Reduction := rpn.foldl Reduction.step {}

/-- The guard made last; a condition without any test asks for a symbol of empty name. -/
def Reduction.guard (r : Reduction) : Guard :=
  match r.parts with
  | part :: _ => part.toGuard
  | [] => .defined [] false

def reduceCondition (condition : Text) : Reduction :=
  reduce (Rpn.ofCondition (Call.protect condition))

def parse (condition : Text) : Guard := (reduceCondition condition).guard

/-- The note that a junction of a condition was skipped. -/
def skippedNote (condition : Text) (j : Junction) : Text :=
  "malformed condition '".toList ++ condition ++ "': '".toList ++ j.sign ++
    "' is missing an operand".toList

/-- Parses a condition and warns of every junction that was skipped. -/
def read (condition : Text) : Traced Guard :=
  ⟨parse condition,
    (reduceCondition condition).skipped.map fun j => .note .warn (skippedNote condition j)⟩

/-- Whether a condition holds under a list of defines. -/
def evaluate (condition : Text) (defines : List Text) : Bool :=
  (parse condition).holds (Symbols.ofEntries defines)

example : parse "defined(A) && !defined(B)".toList =
    .and (.defined ['A'] false) (.defined ['B'] true) := by decide
example : parse "A <= 3".toList = .compare ['A'] .lessOrEqual ['3'] := by decide
example : parse "&& A".toList = .defined ['A'] false := by decide

end ShaderPrep.Guard
