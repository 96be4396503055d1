/-!
The draft of a machine that matches bytes: only how large it is. A state has a fixed size, and takes
more for each way that it branches and for each range of bytes that it tells apart.
-/
namespace ShaderPrep.Pattern

structure Draft where
  states : Nat := 0
  /-- Bytes beyond the fixed size of states. -/
  extra : Nat := 0
  /-- Whether the part drafted last ends in a branching state, so that to go on from there makes
  one more branch. -/
  opened : Bool := false
  deriving DecidableEq, Repr

namespace Draft

/-- The largest size in bytes, ten mebibytes. -/
def maxBytes : Nat := 10485760

def bytes (d : Draft) : Nat := 32 * d.states + d.extra

def isOver (d : Draft) : Bool := maxBytes < d.bytes

/-- More states that do not branch. -/
def add (d : Draft) (n : Nat) : Draft := { d with states := d.states + n }

/-- More branches. -/
def branch (d : Draft) (n : Nat) : Draft := { d with extra := d.extra + 4 * n }

/-- A state that tells `n` ranges of bytes apart. -/
def ranges (d : Draft) (n : Nat) : Draft :=
  { d with states := d.states + 1, extra := d.extra + 8 * n }

/-- Goes on behind the part drafted last. -/
def follow (d : Draft) : Draft := if d.opened then { d.branch 1 with opened := false } else d

/-- Leaves a branching state at the end. -/
def leaveOpen (d : Draft) : Draft := { d with opened := true }

/-- A part `n` times one behind the other, as long as there is room. -/
def copies (part : Draft → Draft) : Nat → Draft → Draft
  | 0, d => d
  | n + 1, d => if d.isOver then d else copies part n (part d.follow)

end Draft
end ShaderPrep.Pattern
