import ShaderPrep.Proofs.Define.Numeral

/-! Magnitudes of digits, and decimals read back. Clamping after every digit comes to the same as
clamping the number that all digits spell, so an integer within the limit is read from what it is
written as. -/
namespace ShaderPrep.Numeral

/-- The number that digits spell. -/
def value (radix : Nat) (digits : Text) : Nat :=
  digits.foldl (fun n c => n * radix + digitValue c) 0

/-- A digit behind a number that is clamped already. -/
theorem push_min {radix : Nat} (positive : 0 < radix) (n digit : Nat) :
    push radix (min limit n) digit = min limit (n * radix + digit) := by
  have grown : n ≤ n * radix := Nat.le_mul_of_pos_right n positive
  have full : limit ≤ limit * radix := Nat.le_mul_of_pos_right limit positive
  rw [push]
  rcases Nat.le_total n limit with below | above
  · rw [Nat.min_eq_right below]
    omega
  · rw [Nat.min_eq_left above]
    omega

theorem magnitude_eq_min {radix : Nat} (positive : 0 < radix) (digits : Text) :
    magnitude radix digits = min limit (value radix digits) := by
  have clamped (n : Nat) : digits.foldl (fun acc c => push radix acc (digitValue c)) (min limit n) =
      min limit (digits.foldl (fun n c => n * radix + digitValue c) n) := by
    induction digits generalizing n with
    | nil => rfl
    | cons c digits ih => rw [List.foldl_cons, List.foldl_cons, push_min positive, ih]
  exact clamped 0

section Decimal

/-- All characters are decimal digits. -/
def Decimal (s : Text) : Prop := ∀ c ∈ s, c.isDigit = true

variable {s : Text}

theorem Decimal.not_mem (h : Decimal s) {c : Char} (other : c.isDigit = false) : c ∉ s :=
  fun mem => ne_true_of_eq_false other (h c mem)

theorem digitValue_of_isDigit {c : Char} (h : c.isDigit = true) :
    digitValue c = c.toNat - '0'.toNat ∧ digitValue c < 10 := by
  have range : 48 ≤ c.toNat ∧ c.toNat ≤ 57 := by
    simpa [Char.isDigit, UInt32.le_iff_toNat_le] using h
  have own : digitValue c = c.toNat - '0'.toNat := by
    rw [digitValue, if_pos]
    simp only [Char.le_def, UInt32.le_iff_toNat_le]
    exact range
  have zero : '0'.toNat = 48 := rfl
  omega

theorem Decimal.takeWhile_eq (h : Decimal s) : s.takeWhile (isDigit 10) = s := by
  rw [List.takeWhile_eq_self_iff]
  intro c mem
  exact decide_eq_true (digitValue_of_isDigit (h c mem)).2

theorem Decimal.radix_eq (h : Decimal s) : radix s = (10, s) := by
  refine radix_of_unmarked fun r => ⟨?_, ?_⟩
  · rintro rfl
    exact h.not_mem (c := 'x') (by decide) (by simp)
  · rintro rfl
    exact h.not_mem (c := 'X') (by decide) (by simp)

/-- No blank and no sign is in front of digits. -/
theorem Decimal.sign_trimStart (h : Decimal s) : sign s.trimStart = (false, s) := by
  cases s with
  | nil => rfl
  | cons c s =>
    have digit := h c List.mem_cons_self
    have solid : Unicode.isBlank c = false := by
      refine Bool.eq_false_iff.mpr fun blank => ?_
      have outside := (idle_of_isBlank blank).1
      have inside := (digitValue_of_isDigit digit).2
      omega
    have minus : c ≠ '-' := by
      rintro rfl
      contradiction
    have plus : c ≠ '+' := by
      rintro rfl
      contradiction
    rw [Text.trimStart, List.dropWhile_cons_of_neg (by simp [solid])]
    simp [sign, minus, plus]

theorem Decimal.read?_eq (h : Decimal s) (filled : s ≠ []) :
    read? s = some ((min limit (value 10 s) : Nat) : Int) := by
  obtain ⟨c, r, rfl⟩ := List.exists_cons_of_ne_nil filled
  have magnitude := magnitude_eq_min (show 0 < 10 by decide) (c :: r)
  simp only [read?, h.sign_trimStart, h.radix_eq, h.takeWhile_eq, magnitude, Bool.false_eq_true,
    if_false]

theorem Decimal.read?_neg (h : Decimal s) (filled : s ≠ []) :
    read? ('-' :: s) = some (-((min limit (value 10 s) : Nat) : Int)) := by
  obtain ⟨c, r, rfl⟩ := List.exists_cons_of_ne_nil filled
  have magnitude := magnitude_eq_min (show 0 < 10 by decide) (c :: r)
  have start : sign (Text.trimStart ('-' :: c :: r)) = (true, c :: r) := rfl
  simp only [read?, start, h.radix_eq, h.takeWhile_eq, magnitude, if_true]

theorem decimal_ofNat (n : Nat) : Decimal (Text.ofNat n) :=
  fun _ mem => Nat.isDigit_of_mem_toDigits (by decide) (by decide) mem

theorem value_ofNat (n : Nat) : value 10 (Text.ofNat n) = n := by
  have spelled := Nat.ofDigitChars_toDigits (b := 10) (n := n) (by decide) (by decide)
  rw [Nat.ofDigitChars_eq_foldl] at spelled
  conv_rhs => rw [← spelled]
  refine List.foldl_ext _ _ 0 fun n c mem => ?_
  rw [(digitValue_of_isDigit (decimal_ofNat _ c mem)).1, Nat.mul_comm]

/-- An integer within the limit is read back. -/
theorem read?_ofInt {n : Int} (low : -limit ≤ n) (high : n ≤ limit) :
    read? (Text.ofInt n) = some n := by
  cases n with
  | ofNat n =>
    have read := (decimal_ofNat n).read?_eq Nat.toDigits_ne_nil
    rw [value_ofNat] at read
    rw [Text.ofInt, read, Nat.min_eq_right (by simpa using high)]
    rfl
  | negSucc n =>
    have read := (decimal_ofNat (n + 1)).read?_neg Nat.toDigits_ne_nil
    rw [value_ofNat] at read
    rw [Text.ofInt, read, Nat.min_eq_right (by omega)]
    rfl

theorem dot_notMem_ofInt (n : Int) : '.' ∉ Text.ofInt n := by
  cases n with
  | ofNat n => exact (decimal_ofNat n).not_mem (by decide)
  | negSucc n =>
    rw [Text.ofInt, List.mem_cons, not_or]
    exact ⟨by decide, (decimal_ofNat (n + 1)).not_mem (by decide)⟩

end Decimal
end ShaderPrep.Numeral
