import ShaderPrep.Text.Basic

/-!
Lenient integers: blanks, one sign and a hexadecimal mark may come first, and whatever follows
the digits is ignored. The magnitude grows digit by digit and stays at the largest signed
64-bit integer once it gets there.
-/
namespace ShaderPrep.Numeral

/-- Largest magnitude, the largest signed 64-bit integer. -/
def limit : Nat := 0x7FFFFFFFFFFFFFFF

def digitValue (c : Char) : Nat :=
  if '0' ≤ c ∧ c ≤ '9' then c.toNat - '0'.toNat
  else if 'a' ≤ c ∧ c ≤ 'f' then c.toNat - 'a'.toNat + 10
  else if 'A' ≤ c ∧ c ≤ 'F' then c.toNat - 'A'.toNat + 10
  else 16

def isDigit (radix : Nat) (c : Char) : Bool := digitValue c < radix

/-- One more digit, clamped at the limit after the product and after the sum. -/
def push (radix acc digit : Nat) : Nat := min limit (min limit (acc * radix) + digit)

def magnitude (radix : Nat) (digits : Text) : Nat :=
  digits.foldl (fun acc c => push radix acc (digitValue c)) 0

/-- The sign, and the text behind it. -/
def sign : Text → Bool × Text
  | '-' :: s => (true, s)
  | '+' :: s => (false, s)
  | s => (false, s)

/-- The radix, and the text from the first digit on. -/
def radix : Text → Nat × Text
  | '0' :: 'x' :: s => (16, s)
  | '0' :: 'X' :: s => (16, s)
  | s => (10, s)

/-- The integer a text starts with, if it starts with one. -/
def read? (s : Text) : Option Int :=
  let (negative, s) := sign s.trimStart
  let (radix, s) := radix s
  match s.takeWhile (isDigit radix) with
  | [] => none
  | digits =>
    let n := magnitude radix digits
    some (if negative then -(n : Int) else n)

example : read? "  -7px".toList = some (-7) := by decide
example : read? "0x1F".toList = some 31 ∧ read? "-".toList = none := by decide
example : read? "9223372036854775808".toList = some 9223372036854775807 := by
  decide +kernel

end ShaderPrep.Numeral
