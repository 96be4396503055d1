import Mathlib.Data.List.DropRight
import ShaderPrep.Numeral
import ShaderPrep.Proofs.Text.Laws

/-! Integers read leniently: what no integer contains may stand behind one, and blanks before it. -/
namespace ShaderPrep.Numeral

/-- A character that no integer contains. -/
def Idle (c : Char) : Prop :=
  digitValue c = 16 ∧ c ≠ '+' ∧ c ≠ '-' ∧ c ≠ 'x' ∧ c ≠ 'X'

theorem digitValue_of_outside {c : Char} (h : c.toNat ≤ 32 ∨ 133 ≤ c.toNat) :
    digitValue c = 16 := by
  simp only [digitValue, Char.le_def, UInt32.le_iff_toNat_le]
  have value : c.val.toNat = c.toNat := rfl
  rw [value]
  have n0 : ('0' : Char).val.toNat = 48 := rfl
  have n9 : ('9' : Char).val.toNat = 57 := rfl
  have na : ('a' : Char).val.toNat = 97 := rfl
  have nf : ('f' : Char).val.toNat = 102 := rfl
  have nA : ('A' : Char).val.toNat = 65 := rfl
  have nF : ('F' : Char).val.toNat = 70 := rfl
  rw [n0, n9, na, nf, nA, nF, if_neg (by omega), if_neg (by omega), if_neg (by omega)]

theorem idle_of_isBlank {c : Char} (h : Unicode.isBlank c = true) : Idle c := by
  have outside : c.toNat ≤ 32 ∨ 133 ≤ c.toNat := by
    simp only [Unicode.isBlank, Unicode.Ranges.holds, Unicode.blankRanges, Unicode.Ranges.mem] at h
    grind
  have other (d : Char) (low : 32 < d.toNat) (high : d.toNat < 133) : c ≠ d := by
    rintro rfl
    omega
  exact ⟨digitValue_of_outside outside, other _ (by decide) (by decide),
    other _ (by decide) (by decide), other _ (by decide) (by decide),
    other _ (by decide) (by decide)⟩

theorem idle_semicolon : Idle ';' := ⟨by decide, by decide, by decide, by decide, by decide⟩

theorem sign_append {s t : Text} (idle : ∀ c ∈ t, Idle c) :
    sign (s ++ t) = ((sign s).1, (sign s).2 ++ t) := by
  have other {c : Char} (minus : c ≠ '-') (plus : c ≠ '+') (r : Text) :
      sign (c :: r) = (false, c :: r) := by simp [sign, minus, plus]
  cases s with
  | nil =>
    cases t with
    | nil => rfl
    | cons c t =>
      obtain ⟨-, plus, minus, -⟩ := idle c List.mem_cons_self
      exact other minus plus t
  | cons c s =>
    by_cases minus : c = '-'
    · rw [minus]
      rfl
    · by_cases plus : c = '+'
      · rw [plus]
        rfl
      · rw [List.cons_append, other minus plus, other minus plus]
        rfl

theorem radix_of_unmarked {s : Text} (h : ∀ r, s ≠ '0' :: 'x' :: r ∧ s ≠ '0' :: 'X' :: r) :
    radix s = (10, s) := by
  unfold radix
  split
  · next r => exact absurd rfl (h r).1
  · next r => exact absurd rfl (h r).2
  · rfl

theorem radix_append {s t : Text} (idle : ∀ c ∈ t, Idle c) :
    radix (s ++ t) = ((radix s).1, (radix s).2 ++ t) := by
  by_cases marked : ∃ r, s = '0' :: 'x' :: r ∨ s = '0' :: 'X' :: r
  · obtain ⟨r, rfl | rfl⟩ := marked <;> rfl
  · have unmarked (r : Text) : s ≠ '0' :: 'x' :: r ∧ s ≠ '0' :: 'X' :: r :=
      ⟨fun same => marked ⟨r, .inl same⟩, fun same => marked ⟨r, .inr same⟩⟩
    -- A mark that the idle text had part in would have an idle character in it.
    have still (c : Char) (mark : c = 'x' ∨ c = 'X') (r : Text) : s ++ t ≠ '0' :: c :: r := by
      intro same
      match s, same with
      | [], same =>
        have zero : '0' ∈ t := (show t = _ from same) ▸ List.mem_cons_self
        exact absurd (idle '0' zero).1 (by decide)
      | [_], same =>
        have mem : c ∈ t := (show t = _ from (List.cons.inj same).2) ▸ List.mem_cons_self
        obtain ⟨-, -, -, lower, upper⟩ := idle c mem
        exact mark.elim lower upper
      | a :: b :: s', same =>
        simp only [List.cons_append, List.cons.injEq] at same
        obtain ⟨rfl, rfl, -⟩ := same
        rcases mark with rfl | rfl
        · exact (unmarked s').1 rfl
        · exact (unmarked s').2 rfl
    rw [radix_of_unmarked unmarked, radix_of_unmarked fun r =>
      ⟨still 'x' (.inl rfl) r, still 'X' (.inr rfl) r⟩]

theorem takeWhile_append {s t : Text} (idle : ∀ c ∈ t, Idle c) {n : Nat} (h : n ≤ 16) :
    (s ++ t).takeWhile (isDigit n) = s.takeWhile (isDigit n) := by
  induction s with
  | nil =>
    cases t with
    | nil => rfl
    | cons c t =>
      have blunt : isDigit n c = false := by
        simp only [isDigit, (idle c List.mem_cons_self).1, decide_eq_false_iff_not]
        omega
      rw [List.nil_append, List.takeWhile_cons, blunt]
      rfl
  | cons c s ih => rw [List.cons_append, List.takeWhile_cons, List.takeWhile_cons, ih]

theorem radix_le (s : Text) : (radix s).1 ≤ 16 := by
  unfold radix
  split <;> simp

theorem exists_trimStart_append {s t : Text} (idle : ∀ c ∈ t, Idle c) :
    ∃ t', (∀ c ∈ t', Idle c) ∧ Text.trimStart (s ++ t) = s.trimStart ++ t' := by
  rw [Text.trimStart, Text.trimStart, List.dropWhile_append]
  split
  · next blank =>
    rw [List.isEmpty_iff.mp blank]
    exact ⟨_, fun c mem => idle c ((List.dropWhile_suffix _).subset mem), rfl⟩
  · exact ⟨t, idle, rfl⟩

/-- What no integer contains may stand behind one. -/
theorem read?_append {s t : Text} (idle : ∀ c ∈ t, Idle c) : read? (s ++ t) = read? s := by
  obtain ⟨t', idle', trimmed⟩ := exists_trimStart_append (s := s) idle
  simp only [read?, trimmed, sign_append idle', radix_append idle',
    takeWhile_append idle' (radix_le _)]

@[simp] theorem read?_trimStart (s : Text) : read? s.trimStart = read? s := by
  have again : s.trimStart.trimStart = s.trimStart := List.dropWhile_idempotent ..
  rw [read?, read?, again]

theorem read?_cons_blank (s : Text) : read? (' ' :: s) = read? s := by
  rw [← read?_trimStart (' ' :: s), ← read?_trimStart s]
  rfl

@[simp] theorem read?_trimEnd (s : Text) : read? s.trimEnd = read? s := by
  obtain ⟨blanks, same, blank⟩ := Text.exists_eq_trimEnd_append s
  conv_rhs => rw [same]
  exact (read?_append fun c mem => idle_of_isBlank (blank c mem)).symm

@[simp] theorem read?_trim (s : Text) : read? s.trim = read? s := by
  rw [Text.trim, read?_trimEnd, read?_trimStart]

@[simp] theorem read?_dropLastIf (s : Text) : read? (s.dropLastIf ';') = read? s := by
  unfold Text.dropLastIf
  split
  · next last =>
    conv_rhs => rw [← List.dropLast_append_getLast? ';' last]
    exact (read?_append fun c mem => List.mem_singleton.mp mem ▸ idle_semicolon).symm
  · rfl

end ShaderPrep.Numeral
