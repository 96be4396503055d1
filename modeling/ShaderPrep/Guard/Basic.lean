import ShaderPrep.Numeral
import ShaderPrep.Symbols

/-!
Guards decide whether a branch of a conditional block is kept. A guard tests symbols for presence
or compares them as integers, and joins such tests by and and or.
-/
namespace ShaderPrep

inductive Comparison where
  | equal
  | notEqual
  | greaterOrEqual
  | lessOrEqual
  | less
  | greater
  deriving DecidableEq, Repr

namespace Comparison

/-- The order in which a test is searched for its comparison: a sign comes before its part. -/
def all : List Comparison := [equal, notEqual, greaterOrEqual, lessOrEqual, less, greater]

def sign : Comparison → Text
  | equal => "==".toList
  | notEqual => "!=".toList
  | greaterOrEqual => ">=".toList
  | lessOrEqual => "<=".toList
  | less => "<".toList
  | greater => ">".toList

/-- The comparison of two sides that may be no numbers; then only "not equal" holds. -/
def holds (comparison : Comparison) : Option Int → Option Int → Bool
  | some left, some right =>
    match comparison with
    | equal => left = right
    | notEqual => left ≠ right
    | greaterOrEqual => right ≤ left
    | lessOrEqual => left ≤ right
    | less => left < right
    | greater => right < left
  | _, _ => comparison = notEqual

end Comparison

inductive Guard where
  | defined (symbol : Text) (negated : Bool)
  | compare (symbol : Text) (comparison : Comparison) (value : Text)
  | and (left right : Guard)
  | or (left right : Guard)
  deriving DecidableEq, Repr

namespace Guard

/-- A symbol that is not in the table is compared by its own text. -/
def holds (symbols : Symbols) : Guard → Bool
  | defined symbol negated => symbols.has symbol != negated
  | compare symbol comparison value =>
    comparison.holds (Numeral.read? ((symbols.get? symbol).getD symbol)) (Numeral.read? value)
  | and left right => left.holds symbols && right.holds symbols
  | or left right => left.holds symbols || right.holds symbols

/-- The guard written out, every junction in parentheses. -/
def toText : Guard → Text
  | defined symbol negated =>
    (if negated then ['!'] else []) ++ "defined(".toList ++ symbol ++ [')']
  | compare symbol comparison value => symbol ++ [' '] ++ comparison.sign ++ [' '] ++ value
  | and left right => '(' :: (left.toText ++ (" && ".toList ++ (right.toText ++ [')'])))
  | or left right => '(' :: (left.toText ++ (" || ".toList ++ (right.toText ++ [')'])))

end Guard
end ShaderPrep
