import ShaderPrep.Guard.Rpn
import Std.Data.HashMap

/-!
Conversions of conditions to reverse Polish order, for a host that meets the same conditions again
and again. They are kept in a memo: results of a function on texts, for when the same text comes
again. A memo holds a fixed number of results at most; when it is full, the half used least recently
goes.
-/
namespace ShaderPrep

instance : Hashable Text where
  hash s := s.foldl (fun sum c => mixHash sum (hash c.toNat)) 7

/-- A result with the time of its last use. -/
structure Kept (β : Type) where
  used : Nat
  result : β

structure Memo (β : Type) where
  kept : Std.HashMap Text (Kept β) := ∅
  /-- Counts the questions asked so far. No run asks 2 ^ 64 of them, so 64 bits hold the count. -/
  clock : Nat := 0

namespace Memo

/-- How many results a memo holds at most. -/
def capacity : Nat := 50000

/-- The times of last use, in order. -/
def times (m : Memo β) : List Nat :=
  (m.kept.toList.map fun entry => entry.2.used).mergeSort fun a b => decide (a ≤ b)

/-- The time in the middle. -/
def cutoff (m : Memo β) : Nat := (m.times[m.times.length / 2]?).getD 0

/-- Keeps only what was used after the time in the middle. -/
def prune (m : Memo β) : Memo β :=
  let cutoff := m.cutoff
  { m with kept := m.kept.filter fun _ entry => decide (cutoff < entry.used) }

/-- The result kept for a text, which counts as used by that. -/
def lookUp (m : Memo β) (text : Text) : Option β × Memo β :=
  let clock := m.clock + 1
  match m.kept[text]? with
  | none => (none, { m with clock })
  | some entry =>
    (some entry.result, { kept := m.kept.insert text { entry with used := clock }, clock })

/-- Keeps a result, in the place of older ones if need be. -/
def keep (m : Memo β) (text : Text) (result : β) : Memo β :=
  let m := if capacity ≤ m.kept.size then m.prune else m
  { m with kept := m.kept.insert text ⟨m.clock, result⟩ }

/-- The result for a text, worked out only if none is kept. -/
def ask (f : Text → β) (m : Memo β) (text : Text) : β × Memo β :=
  match m.lookUp text with
  | (some result, m) => (result, m)
  | (none, m) => (f text, m.keep text (f text))

end Memo

namespace Guard.Rpn

abbrev Conversions := Memo (List Rpn)

def askCondition (conversions : Conversions) (condition : Text) : List Rpn × Conversions :=
  conversions.ask ofCondition condition

end Guard.Rpn
end ShaderPrep
