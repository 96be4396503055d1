/-!
Sets of code points as sorted lists of closed ranges. Membership stops at the first range that
starts behind the code point, so a lookup never reads past it. Unions, complements and what
follows from them keep the order and join ranges that meet.
-/
namespace ShaderPrep.Unicode

/-- Ascending, disjoint, closed ranges of code points. -/
abbrev Ranges := List (Nat × Nat)

namespace Ranges

def mem (n : Nat) : Ranges → Bool
  | [] => false
  | (lo, hi) :: rest => if n < lo then false else if n ≤ hi then true else mem n rest

def holds (ranges : Ranges) (c : Char) : Bool := mem c.toNat ranges

/-- Largest code point. -/
def top : Nat := 0x10FFFF

/-- Joins a range with those behind it that meet it; they are sorted by lower ends. -/
def joinFrom (lo hi : Nat) : List (Nat × Nat) → Ranges
  | [] => [(lo, hi)]
  | (lo', hi') :: rest =>
    if lo' ≤ hi + 1 then joinFrom lo (max hi hi') rest else (lo, hi) :: joinFrom lo' hi' rest

/-- Joins ranges that meet; the argument is sorted by lower ends. -/
def merge : List (Nat × Nat) → Ranges
  | [] => []
  | (lo, hi) :: rest => joinFrom lo hi rest

def ofRanges (ranges : List (Nat × Nat)) : Ranges :=
  merge (ranges.mergeSort fun a b => a.1 ≤ b.1)

def union (a b : Ranges) : Ranges := ofRanges (a ++ b)

/-- The gaps from `start` on. -/
def gaps (start : Nat) : Ranges → Ranges
  | [] => if start ≤ top then [(start, top)] else []
  | (lo, hi) :: rest =>
    if start < lo then (start, lo - 1) :: gaps (hi + 1) rest else gaps (hi + 1) rest

/-- Surrogates are code points but no characters. -/
def isSurrogate (n : Nat) : Bool := 0xD800 ≤ n && n ≤ 0xDFFF

/-- A range without the surrogates at its ends. -/
def trim (range : Nat × Nat) : Option (Nat × Nat) :=
  let lo := if isSurrogate range.1 then 0xE000 else range.1
  let hi := if isSurrogate range.2 then 0xD7FF else range.2
  if lo ≤ hi then some (lo, hi) else none

/-- The characters outside the set. -/
def complement (a : Ranges) : Ranges := (gaps 0 a).filterMap trim

def inter (a b : Ranges) : Ranges := complement (union (complement a) (complement b))

def diff (a b : Ranges) : Ranges := inter a (complement b)

/-- Members of exactly one of the two. -/
def symmetricDiff (a b : Ranges) : Ranges := union (diff a b) (diff b a)

/-- The only member, if there is just one. -/
def only? : Ranges → Option Nat
  | [(lo, hi)] => if lo = hi then some lo else none
  | _ => none

example : merge [(1, 10), (2, 3), (6, 7), (12, 12)] = [(1, 10), (12, 12)] := by decide
example : complement [(1, 3), (5, 5)] = [(0, 0), (4, 4), (6, top)] := by decide
example : complement [(0, 0xD7FF), (0xE000, top)] = [] := by decide

end Ranges
end ShaderPrep.Unicode
