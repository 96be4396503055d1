import ShaderPrep.Guard.Basic

/-! What guards see of a table: of each symbol they ask for, whether it is there and which number
it stands for. -/
namespace ShaderPrep

/-- The symbols a guard asks for. -/
def Guard.symbols : Guard → List Text
  | defined symbol _ => [symbol]
  | compare symbol _ _ => [symbol]
  | and left right => left.symbols ++ right.symbols
  | or left right => left.symbols ++ right.symbols

namespace Symbols
variable {s t : Symbols} {key : Text}

/-- No guard on the symbol tells the tables apart. -/
structure AgreeAt (s t : Symbols) (key : Text) : Prop where
  has : s.has key = t.has key
  number : Numeral.read? ((s.get? key).getD key) = Numeral.read? ((t.get? key).getD key)

theorem AgreeAt.of_get? (same : s.get? key = t.get? key) : AgreeAt s t key :=
  ⟨congrArg Option.isSome same, by rw [same]⟩

theorem agreeAt_iff_of_some {v w : Text} (left : s.get? key = some v)
    (right : t.get? key = some w) : AgreeAt s t key ↔ Numeral.read? v = Numeral.read? w := by
  constructor
  · rintro ⟨-, number⟩
    rwa [left, right] at number
  · intro number
    refine ⟨?_, by rwa [left, right]⟩
    rw [Table.has, Table.has, left, right]
    rfl

theorem AgreeAt.insert (h : AgreeAt s t key) (k value : Text) :
    AgreeAt (s.insert k value) (t.insert k value) key := by
  by_cases own : key = k
  · exact .of_get? (by rw [Table.get?_insert, Table.get?_insert, if_pos own, if_pos own])
  · constructor
    · simpa only [Table.has, Table.get?_insert, if_neg own] using h.has
    · simpa only [Table.get?_insert, if_neg own] using h.number

end Symbols

namespace Guard
open Symbols (AgreeAt)
variable {s t : Symbols} {key : Text}

theorem holds_congr {guard : Guard} (same : ∀ k ∈ guard.symbols, AgreeAt s t k) :
    guard.holds s = guard.holds t := by
  induction guard with
  | defined symbol negated =>
    rw [holds, holds, (same symbol List.mem_cons_self).has]
  | compare symbol comparison value =>
    rw [holds, holds, (same symbol List.mem_cons_self).number]
  | and left right ihl ihr =>
    rw [holds, holds, ihl fun k mem => same k (List.mem_append_left _ mem),
      ihr fun k mem => same k (List.mem_append_right _ mem)]
  | or left right ihl ihr =>
    rw [holds, holds, ihl fun k mem => same k (List.mem_append_left _ mem),
      ihr fun k mem => same k (List.mem_append_right _ mem)]

theorem equal_holds_iff {left right : Option Int} :
    Comparison.equal.holds left right = true ↔ left = right ∧ left.isSome = true := by
  cases left <;> cases right <;> simp [Comparison.holds]

/-- Guards on one symbol answer both tables alike just when the tables agree there. -/
theorem holds_eq_iff_agreeAt :
    (∀ guard : Guard, (∀ k ∈ guard.symbols, k = key) → guard.holds s = guard.holds t) ↔
      AgreeAt s t key := by
  constructor
  · intro same
    have presence := same (.defined key false) fun k mem => List.mem_singleton.mp mem
    have equality (value : Text) := same (.compare key .equal value) fun k mem =>
      List.mem_singleton.mp mem
    simp only [holds, Bool.bne_false] at presence
    refine ⟨presence, ?_⟩
    -- Each side is compared to the text that is there for itself.
    have left := equality ((s.get? key).getD key)
    have right := equality ((t.get? key).getD key)
    simp only [holds] at left right
    generalize Numeral.read? ((s.get? key).getD key) = a at left right ⊢
    generalize Numeral.read? ((t.get? key).getD key) = b at left right ⊢
    cases a with
    | some n => exact (equal_holds_iff.mp (left.symm.trans (equal_holds_iff.mpr ⟨rfl, rfl⟩))).1.symm
    | none =>
      cases b with
      | some n => exact (equal_holds_iff.mp (right.trans (equal_holds_iff.mpr ⟨rfl, rfl⟩))).1
      | none => rfl
  · intro agree guard only
    exact holds_congr fun k mem => only k mem ▸ agree

end Guard
end ShaderPrep
