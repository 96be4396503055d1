import ShaderPrep.Unicode.Ranges

/-!
Tables that give every code point a label, as text: each label is followed by the length of its
run, so that "Cc32Zs1Po3" starts with 32 control characters. The runs follow one another from code
point zero on; a table of two labels is a set.
-/
namespace ShaderPrep.Unicode

/-- Neighbouring code points of one label. -/
structure Run where
  label : String
  length : Nat
  deriving DecidableEq, Repr

abbrev Runs := List Run

namespace Runs

/-- Reads on behind a part of a label, latest character first, and a part of a length. -/
def readFrom (label : List Char) (length : Nat) : List Char → Runs
  | [] => [⟨String.ofList label.reverse, length⟩]
  | c :: s =>
    if c.isDigit then readFrom label (10 * length + (c.toNat - 48)) s
    else if length = 0 then readFrom (c :: label) 0 s
    else ⟨String.ofList label.reverse, length⟩ :: readFrom [c] 0 s

def read (lines : List String) : Runs := readFrom [] 0 (lines.flatMap String.toList)

/-- The code points from `start` on whose label is wanted. -/
def selectFrom (wanted : String → Bool) (start : Nat) : Runs → Ranges
  | [] => []
  | run :: rest =>
    let others := selectFrom wanted (start + run.length) rest
    if wanted run.label then (start, start + run.length - 1) :: others else others

/-- The code points whose label is wanted. -/
def select (wanted : String → Bool) (runs : Runs) : Ranges :=
  Ranges.merge (runs.selectFrom wanted 0)

/-- The set of a table whose label "+" stands for its members. -/
def set (lines : List String) : Ranges := (read lines).select (· = "+")

example : (read ["Cc32Zs1", "Po3"]).select (· = "Zs") = [(32, 32)] := by decide +kernel
example : set ["-48+10-7+6"] = [(48, 57), (65, 70)] := by decide +kernel

end Runs
end ShaderPrep.Unicode
