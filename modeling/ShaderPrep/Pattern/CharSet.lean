import ShaderPrep.Text.Basic
import ShaderPrep.Unicode.Classes
import ShaderPrep.Unicode.Fold

/-!
Sets of characters for patterns: the classes with a letter or a name of their own, and what differs
from a member only in case.
-/
namespace ShaderPrep.Pattern

open Unicode

abbrev CharSet := Ranges

namespace CharSet

def single (c : Char) : CharSet := [(c.toNat, c.toNat)]

/-- The members of an arithmetic run that lie in the set, moved by `shift`. -/
def shifted (a : CharSet) (lo hi stride : Nat) (shift : Int) : List (Nat × Nat) :=
  a.flatMap fun (x, y) =>
    let first := lo + (x - lo + stride - 1) / stride * stride
    let last := min y hi
    let moved (n : Nat) : Nat := ((n : Int) + shift).toNat
    if last < first then []
    else if stride = 1 then [(moved first, moved last)]
    else (List.range ((last - first) / stride + 1)).map fun i =>
      (moved (first + i * stride), moved (first + i * stride))

/-- Adds what differs from a member only in case: first down to the foldings, then up from them. -/
def closeUnderCase (a : CharSet) : CharSet :=
  let down := Ranges.union a
    (foldRuns.flatMap fun (lo, hi, stride, shift) => shifted a lo hi stride shift)
  Ranges.union down (foldRuns.flatMap fun (lo, hi, stride, shift) =>
    shifted down (((lo : Int) + shift).toNat) (((hi : Int) + shift).toNat) stride (-shift))

/-- Adds the other case of the letters of ASCII alone. -/
def closeUnderAsciiCase (a : CharSet) : CharSet :=
  Ranges.union a (shifted a 65 90 1 32 ++ shifted a 97 122 1 (-32))

def word : CharSet := wordRanges
def digit : CharSet := digitRanges
def blank : CharSet := blankRanges

def asciiDigit : CharSet := [(48, 57)]
def asciiWord : CharSet := [(48, 57), (65, 90), (95, 95), (97, 122)]
def asciiBlank : CharSet := [(9, 13), (32, 32)]

/-- Named classes of ASCII characters. -/
def named? (name : Text) : Option CharSet :=
  match String.ofList name with
  | "alnum" => some [(48, 57), (65, 90), (97, 122)]
  | "alpha" => some [(65, 90), (97, 122)]
  | "ascii" => some [(0, 127)]
  | "blank" => some [(9, 9), (32, 32)]
  | "cntrl" => some [(0, 31), (127, 127)]
  | "digit" => some asciiDigit
  | "graph" => some [(33, 126)]
  | "lower" => some [(97, 122)]
  | "print" => some [(32, 126)]
  | "punct" => some [(33, 47), (58, 64), (91, 96), (123, 126)]
  | "space" => some asciiBlank
  | "upper" => some [(65, 90)]
  | "word" => some asciiWord
  | "xdigit" => some [(48, 57), (65, 70), (97, 102)]
  | _ => none

example : closeUnderAsciiCase [(64, 66)] = [(64, 66), (97, 98)] := by cbv

end CharSet
end ShaderPrep.Pattern
