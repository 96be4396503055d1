import Mathlib.Data.Nat.Digits.Defs
import ShaderPrep.Proofs.Numeral.Decimal

/-! Integers read from any text. Every text falls into blanks, a sign, a hexadecimal mark, digits
and a rest, each of which takes all that it can. The integer is the number that the digits spell,
clamped once and put under the sign, however many digits there are and whatever the rest is. -/
namespace ShaderPrep.Numeral

section Figures

/-- The digits of all radices up to sixteen, in the order of their values. -/
def figures : Text := "0123456789abcdef".toList

/-- A digit of the radix, in either case. -/
def isFigure (radix : Nat) (c : Char) : Bool := (figures.take radix).contains c.toLower

theorem digitValue_eq_idxOf (c : Char) : digitValue c = figures.idxOf c.toLower := by
  have ascii : ∀ n < 133, digitValue (Char.ofNat n) = figures.idxOf (Char.ofNat n).toLower := by
    decide +kernel
  by_cases small : c.toNat < 133
  · have same := ascii c.toNat small
    rwa [Char.ofNat_toNat] at same
  · have range : figures.all (·.toNat < 133) = true := by decide
    have lower : c.toLower = c := by
      refine dif_neg fun upper => ?_
      have last : c.toNat ≤ 90 := UInt32.le_iff_toNat_le.mp upper.2
      omega
    have outside : c ∉ figures := fun mem =>
      small (of_decide_eq_true (List.all_eq_true.mp range c mem))
    rw [lower, List.idxOf_eq_length outside]
    exact digitValue_of_outside (by omega)

theorem isDigit_eq {radix : Nat} (h : radix ≤ 16) : isDigit radix = isFigure radix := by
  funext c
  rw [isDigit, digitValue_eq_idxOf, isFigure, Bool.eq_iff_iff, decide_eq_true_eq,
    List.contains_iff_mem]
  by_cases mem : c.toLower ∈ figures
  · exact (List.mem_take_iff_idxOf_lt mem).symm
  · have last : figures.idxOf c.toLower = 16 := List.idxOf_eq_length mem
    exact iff_of_false (by omega) fun taken => mem (List.mem_of_mem_take taken)

/-- Digits spell their number in positional notation. -/
theorem value_eq_ofDigits (radix : Nat) (digits : Text) :
    value radix digits =
      Nat.ofDigits radix (digits.reverse.map fun c => figures.idxOf c.toLower) := by
  rw [Nat.ofDigits_eq_foldr, List.foldr_map, List.foldr_reverse, value]
  refine List.foldl_ext _ _ 0 fun n c _ => ?_
  rw [digitValue_eq_idxOf, Nat.cast_id, Nat.add_comm, Nat.mul_comm]

end Figures

/-- The radix that a mark in front of the digits stands for. -/
def radixOf (mark : Text) : Nat := if mark = [] then 10 else 16

/-- A text by what an integer is read from. -/
structure Parts where
  blanks : Text
  sign : Text
  mark : Text
  digits : Text
  rest : Text
  blank : blanks.IsBlank
  signed : sign ∈ [[], ['+'], ['-']]
  marked : mark ∈ [[], ['0', 'x'], ['0', 'X']]
  numeric : digits.all (isFigure (radixOf mark)) = true
  -- Each part takes all that it can.
  solid : (sign ++ (mark ++ (digits ++ rest))).head?.any Unicode.isBlank = false
  unsigned : sign = [] → (mark ++ (digits ++ rest)).head? ∉ [some '+', some '-']
  unmarked : mark = [] →
    ∀ r, digits ++ rest ≠ '0' :: 'x' :: r ∧ digits ++ rest ≠ '0' :: 'X' :: r
  ended : rest.head?.any (isFigure (radixOf mark)) = false

theorem radixOf_le (mark : Text) : radixOf mark ≤ 16 := by
  unfold radixOf
  split <;> decide

theorem radixOf_pos (mark : Text) : 0 < radixOf mark := by
  unfold radixOf
  split <;> decide

section Reading
variable {w u : Text}

theorem sign_of_signed (signed : w ∈ [[], ['+'], ['-']])
    (unsigned : w = [] → u.head? ∉ [some '+', some '-']) :
    sign (w ++ u) = (decide (w = ['-']), u) := by
  simp only [List.mem_cons, List.not_mem_nil, or_false] at signed
  rcases signed with rfl | rfl | rfl
  · cases u with
    | nil => rfl
    | cons c u =>
      have other : c ≠ '+' ∧ c ≠ '-' := by simpa using unsigned rfl
      simp [sign, other]
  · rfl
  · rfl

theorem radix_of_marked (marked : w ∈ [[], ['0', 'x'], ['0', 'X']])
    (unmarked : w = [] → ∀ r, u ≠ '0' :: 'x' :: r ∧ u ≠ '0' :: 'X' :: r) :
    radix (w ++ u) = (radixOf w, u) := by
  simp only [List.mem_cons, List.not_mem_nil, or_false] at marked
  rcases marked with rfl | rfl | rfl
  · exact radix_of_unmarked (unmarked rfl)
  · rfl
  · rfl

theorem exists_span (p : Char → Bool) (s : Text) : ∃ w u, s = w ++ u ∧
    w.all p = true ∧ u.head?.any p = false := by
  refine ⟨s.takeWhile p, s.dropWhile p, List.takeWhile_append_dropWhile.symm,
    List.all_takeWhile, ?_⟩
  cases behind : s.dropWhile p with
  | nil => rfl
  | cons c t => exact Text.not_of_dropWhile_eq_cons behind

theorem exists_signed (s : Text) : ∃ w u, s = w ++ u ∧ w ∈ [[], ['+'], ['-']] ∧
    (w = [] → u.head? ∉ [some '+', some '-']) := by
  by_cases plus : s.head? = some '+'
  · obtain ⟨u, rfl⟩ := List.head?_eq_some_iff.mp plus
    exact ⟨['+'], u, rfl, by decide, nofun⟩
  by_cases minus : s.head? = some '-'
  · obtain ⟨u, rfl⟩ := List.head?_eq_some_iff.mp minus
    exact ⟨['-'], u, rfl, by decide, nofun⟩
  · exact ⟨[], s, rfl, by decide, fun _ => by simp [plus, minus]⟩

theorem exists_marked (s : Text) : ∃ w u, s = w ++ u ∧ w ∈ [[], ['0', 'x'], ['0', 'X']] ∧
    (w = [] → ∀ r, u ≠ '0' :: 'x' :: r ∧ u ≠ '0' :: 'X' :: r) := by
  by_cases lower : ∃ r, s = '0' :: 'x' :: r
  · obtain ⟨r, rfl⟩ := lower
    exact ⟨['0', 'x'], r, rfl, by decide, nofun⟩
  by_cases upper : ∃ r, s = '0' :: 'X' :: r
  · obtain ⟨r, rfl⟩ := upper
    exact ⟨['0', 'X'], r, rfl, by decide, nofun⟩
  · exact ⟨[], s, rfl, by decide, fun _ r =>
      ⟨fun same => lower ⟨r, same⟩, fun same => upper ⟨r, same⟩⟩⟩

end Reading

namespace Parts
variable (p : Parts)

def text : Text := p.blanks ++ (p.sign ++ (p.mark ++ (p.digits ++ p.rest)))

/-- The number that the digits spell in positional notation. -/
def value : Nat :=
  Nat.ofDigits (radixOf p.mark) (p.digits.reverse.map fun c => figures.idxOf c.toLower)

/-- What the sign multiplies with. -/
def factor : Int := if p.sign = ['-'] then -1 else 1

theorem trimStart_text : p.text.trimStart = p.sign ++ (p.mark ++ (p.digits ++ p.rest)) := by
  rw [text, Text.trimStart_append p.blank]
  have solid := p.solid
  cases behind : p.sign ++ (p.mark ++ (p.digits ++ p.rest)) with
  | nil => rfl
  | cons c s =>
    rw [behind, List.head?_cons, Option.any_some] at solid
    exact List.dropWhile_cons_of_neg (ne_true_of_eq_false solid)

theorem takeWhile_digits :
    (p.digits ++ p.rest).takeWhile (isDigit (radixOf p.mark)) = p.digits := by
  have stop : p.rest.takeWhile (isFigure (radixOf p.mark)) = [] := by
    have ended := p.ended
    cases behind : p.rest with
    | nil => rfl
    | cons c rest =>
      rw [behind, List.head?_cons, Option.any_some] at ended
      exact List.takeWhile_cons_of_neg (ne_true_of_eq_false ended)
  rw [isDigit_eq (radixOf_le _), List.takeWhile_append_of_pos (List.all_eq_true.mp p.numeric), stop,
    List.append_nil]

theorem magnitude_eq : magnitude (radixOf p.mark) p.digits = min p.value limit := by
  rw [magnitude_eq_min (radixOf_pos _), value_eq_ofDigits, Nat.min_comm]
  rfl

theorem magnitude_le : magnitude (radixOf p.mark) p.digits ≤ limit := by
  rw [magnitude_eq]
  exact Nat.min_le_right ..

theorem factor_mul_factor (n : Int) : p.factor * (p.factor * n) = n := by
  rw [factor]
  split <;> omega

theorem read?_text : read? p.text =
    if p.digits = [] then none else some (p.factor * (min p.value limit : Nat)) := by
  have magnitude := p.magnitude_eq
  simp only [read?, p.trimStart_text, sign_of_signed p.signed p.unsigned,
    radix_of_marked p.marked p.unmarked, p.takeWhile_digits]
  cases digits : p.digits with
  | nil => rfl
  | cons c s =>
    rw [digits] at magnitude
    simp only [magnitude, reduceCtorEq, if_false, factor, decide_eq_true_eq]
    split <;> simp

end Parts

theorem exists_parts (s : Text) : ∃ p : Parts, p.text = s := by
  obtain ⟨blanks, t, rfl, blank, solid⟩ := exists_span Unicode.isBlank s
  obtain ⟨sign, u, rfl, signed, unsigned⟩ := exists_signed t
  obtain ⟨mark, v, rfl, marked, unmarked⟩ := exists_marked u
  obtain ⟨digits, rest, rfl, numeric, ended⟩ := exists_span (isFigure (radixOf mark)) v
  exact ⟨⟨blanks, sign, mark, digits, rest, List.all_eq_true.mp blank, signed, marked, numeric,
    solid, unsigned, unmarked, ended⟩, rfl⟩

/-- An integer is read from a text exactly if digits of its radix are where they belong, and it is
what all of them spell, clamped once. It grows with this number, and it and its opposite are always
signed 64-bit integers, so that putting it under the sign does not overflow. -/
theorem read?_clamped :
    (∀ s : Text, ∃ p : Parts, p.text = s) ∧
    (∀ p : Parts, read? p.text =
      if p.digits = [] then none else some (p.factor * (min p.value (2 ^ 63 - 1) : Nat))) ∧
    (∀ p q : Parts, p.digits ≠ [] → q.digits ≠ [] → p.value ≤ q.value →
      ∃ m n, read? p.text = some m ∧ read? q.text = some n ∧ p.factor * m ≤ q.factor * n) ∧
    (∀ s n, read? s = some n → -2 ^ 63 < n ∧ n < 2 ^ 63) ∧
    ∀ p : Parts, (-Int64.ofNat (magnitude (radixOf p.mark) p.digits)).toInt =
      -(magnitude (radixOf p.mark) p.digits : Int) := by
  have bounded (s : Text) (n : Int) (read : read? s = some n) : -2 ^ 63 < n ∧ n < 2 ^ 63 := by
    obtain ⟨p, rfl⟩ := exists_parts s
    have size := Nat.min_le_right p.value limit
    have last : limit = 2 ^ 63 - 1 := by decide
    rw [p.read?_text] at read
    split at read
    · contradiction
    · obtain rfl := Option.some.inj read
      rw [Parts.factor]
      split <;> omega
  refine ⟨exists_parts, Parts.read?_text, ?_, bounded, fun p => ?_⟩
  · intro p q filled filled' less
    refine ⟨_, _, by rw [p.read?_text, if_neg filled], by rw [q.read?_text, if_neg filled'], ?_⟩
    have clamped : min p.value limit ≤ min q.value limit := by omega
    rw [p.factor_mul_factor, q.factor_mul_factor]
    exact Int.ofNat_le.mpr clamped
  · exact Int64.toInt_neg_ofNat_of_le (p.magnitude_le.trans (by decide))

/-- A negative hexadecimal number with more behind it, and a decimal one above all that fit. -/
theorem read?_clamped_above :
    let small : Parts :=
      { blanks := "\t ".toList, sign := ['-'], mark := ['0', 'x'], digits := "1F".toList
        rest := "px 7".toList, blank := by decide, signed := by decide, marked := by decide
        numeric := by decide, solid := by decide, unsigned := nofun, unmarked := nofun
        ended := by decide }
    let large : Parts :=
      { blanks := [], sign := [], mark := [], digits := "9223372036854775808".toList
        rest := "é".toList, blank := by decide, signed := by decide, marked := by decide
        numeric := by decide, solid := by decide, unsigned := by decide, unmarked := by simp
        ended := by decide }
    small.value = 31 ∧ large.value = 2 ^ 63 ∧ read? small.text = some (-31) ∧
      read? large.text = some (2 ^ 63 - 1) ∧ small.factor * (-31) ≤ large.factor * (2 ^ 63 - 1) ∧
      (-2 ^ 63 : Int) < -31 := by
  intro small large
  obtain ⟨-, exact_, grows, bounded, -⟩ := read?_clamped
  have few : small.value = 31 := by decide +kernel
  have many : large.value = 2 ^ 63 := by decide +kernel
  have read : read? small.text = some (-31) := (exact_ small).trans (by decide +kernel)
  have read' : read? large.text = some (2 ^ 63 - 1) := (exact_ large).trans (by decide +kernel)
  obtain ⟨m, n, first, second, less⟩ := grows small large (by decide) (by decide) (by omega)
  obtain rfl := Option.some.inj (read.symm.trans first)
  obtain rfl := Option.some.inj (read'.symm.trans second)
  exact ⟨few, many, read, read', less, (bounded _ _ read).1⟩

end ShaderPrep.Numeral
