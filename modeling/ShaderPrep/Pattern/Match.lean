import ShaderPrep.Pattern.Machine

/-!
Searching and replacing by patterns. The leftmost match counts, and an empty one only where no
other has just ended.
-/
namespace ShaderPrep.Pattern

/-- Replaces the matches in a text that has `previous` in front of it; `fresh` says that no match
ends there. -/
def replaceFrom (m : Machine) (new : Text) (previous : Option Char) (fresh : Bool) : Text → Text
  | [] => if fresh && (m.find? previous []).isSome then new else []
  | c :: s =>
    match m.find? previous (c :: s) with
    | none => c :: s
    | some ⟨_, 0⟩ =>
      let rest := c :: replaceFrom m new (some c) true s
      if fresh then new ++ rest else rest
    | some ⟨start, stop + 1⟩ =>
      (c :: s).take start ++ new ++
        replaceFrom m new (some ((s.take stop).getLastD c)) false (s.drop stop)
termination_by s => s.length

/-- Every match replaced by the same literal text. -/
def replaceAll (p : Pattern) (new s : Text) : Text := replaceFrom p.machine new none true s

/-- Whether a text has a match. -/
def occurs (p : Pattern) (s : Text) : Bool := (p.machine.find? none s).isSome

end ShaderPrep.Pattern
