import ShaderPrep.Pattern.Footprint.Bytes
import ShaderPrep.Pattern.Footprint.Draft
import ShaderPrep.Unicode.Ranges
import Std.Data.HashMap

/-!
The draft of a set of characters. States that would do the same are drafted once, if the earlier one
is still remembered: each has a slot by its hash, and only the latest one in a slot is known.
-/
namespace ShaderPrep.Pattern

/-- The latest entry of every slot: what a state does, by its numbers, and which state it is. -/
abbrev Slots := Std.HashMap Nat (List Nat × Nat)

namespace Slots

/-- The slot for some numbers among `count`: each one is mixed into a hash of 64 bits. -/
def slot (count : Nat) (key : List Nat) : Nat :=
  let hash := key.foldl
    (fun (h : UInt64) n => (h ^^^ UInt64.ofNat n) * (1099511628211 : UInt64))
    (14695981039346656037 : UInt64)
  hash.toNat % count

/-- The state that does what the numbers say, drafted by `make` if it is not remembered. -/
def state (count : Nat) (key : List Nat) (make : Draft → Draft) (slots : Slots) (d : Draft) :
    Nat × Slots × Draft :=
  let slot := slot count key
  match (slots.get? slot).filter fun (known, _) => known == key with
  | some (_, id) => (id, slots, d)
  | none => (d.states, slots.insert slot (key, d.states), make d)

end Slots

namespace Draft

/-! Read forwards, rows share their ends. -/

/-- A state whose last way is still open: the ways that are done, latest first, each with the state
it goes to, and the bytes of the open one. -/
structure Pending where
  done : List (Nat × Nat × Nat) := []
  last : Option (Nat × Nat) := none

/-- How many shared states of a set are remembered when it is read forwards. -/
def forwardSlots : Nat := 10000

/-- Finishes a pending state whose open way goes to `target`. -/
def finish (p : Pending) (target : Nat) (slots : Slots) (d : Draft) : Nat × Slots × Draft :=
  let ways := match p.last with
    | some (lo, hi) => (lo, hi, target) :: p.done
    | none => p.done
  let key := ways.reverse.flatMap fun (lo, hi, next) => [lo, hi, next]
  slots.state forwardSlots key (fun d => d.ranges ways.length) d

/-- Finishes pending states from the deepest one up; the deepest goes to `target`. -/
def finishAll (target : Nat) : List Pending → Slots → Draft → Nat × Slots × Draft
  | [], slots, d => (target, slots, d)
  | p :: deeper, slots, d =>
    let (next, slots, d) := finishAll target deeper slots d
    finish p next slots d

/-- Adds a row to the pending states: what it has in common with the row before stays open. -/
def addRow (target : Nat) : List (Nat × Nat) → List Pending → Slots → Draft →
    List Pending × Slots × Draft
  | range :: row, p :: deeper, slots, d =>
    if p.last = some range then
      let (deeper, slots, d) := addRow target row deeper slots d
      (p :: deeper, slots, d)
    else
      let (next, slots, d) := finishAll target deeper slots d
      let done := match p.last with
        | some (lo, hi) => (lo, hi, next) :: p.done
        | none => p.done
      (⟨done, some range⟩ :: row.map fun range => ⟨[], some range⟩, slots, d)
  | _, pending, slots, d => (pending, slots, d)

/-- The draft of a set beyond ASCII, read forwards. -/
def forwardSet (set : Unicode.Ranges) (d : Draft) : Draft :=
  let target := d.states
  let (pending, slots, d) := (set.flatMap Bytes.rows).foldl
    (fun (pending, slots, d) row => addRow target row pending slots d)
    ([{}], (∅ : Slots), d.add 1)
  (finishAll target pending slots d).2.2

/-! Read backwards, rows share their beginnings as far as these are remembered. -/

/-- How many shared states of a set are remembered when it is read backwards. -/
def backwardSlots : Nat := 1000

/-- The states of a row, each going to the one before it, the first one to `behind`. -/
def addBackward (behind : Nat) : List (Nat × Nat) → Slots → Draft → Slots × Draft
  | [], slots, d => (slots, d)
  | (lo, hi) :: row, slots, d =>
    let (id, slots, d) := slots.state backwardSlots [behind, lo, hi] (·.add 1) d
    addBackward id row slots d

/-- The draft of a set beyond ASCII, read backwards. -/
def backwardSet (set : Unicode.Ranges) (d : Draft) : Draft :=
  let behind := d.states + 1
  ((set.flatMap Bytes.rows).foldl
    (fun (slots, d) row =>
      let (slots, d) := addBackward behind row slots d
      (slots, d.branch 1))
    ((∅ : Slots), d.add 2)).2

end Draft
end ShaderPrep.Pattern
