import ShaderPrep.Proofs.Guard.Grammar
import ShaderPrep.Proofs.Text.Laws
import ShaderPrep.Unicode.Classes

/-! Characters of conditions: which of them words, literals and blanks have, and so which marks they
cannot be taken for. -/
namespace ShaderPrep

section Words
open Unicode

theorem Unicode.Ranges.exists_of_mem {n : Nat} {ranges : Ranges} (h : ranges.mem n = true) :
    ∃ range ∈ ranges, range.1 ≤ n ∧ n ≤ range.2 := by
  induction ranges with
  | nil => cases h
  | cons range ranges ih =>
    obtain ⟨lo, hi⟩ := range
    rw [Ranges.mem] at h
    split at h
    · cases h
    · split at h
      · exact ⟨(lo, hi), List.mem_cons_self, by omega, by omega⟩
      · obtain ⟨range, mem, inside⟩ := ih h
        exact ⟨range, List.mem_cons_of_mem _ mem, inside⟩

theorem Unicode.isBlank_of_isWord {c : Char} (h : isWord c = true) : isBlank c = false := by
  have apart : ∀ blank ∈ blankRanges, ∀ word ∈ wordRanges,
      blank.2 < word.1 ∨ word.2 < blank.1 := by decide +kernel
  rw [← Bool.not_eq_true]
  intro both
  obtain ⟨blank, own, _, _⟩ := Ranges.exists_of_mem both
  obtain ⟨word, own', _, _⟩ := Ranges.exists_of_mem h
  rcases apart blank own word own' with before | behind <;> omega

end Words

namespace Guard

section Blanks

theorem Blanks.isBlank {s : Text} (h : Blanks s) : s.IsBlank := by
  intro c mem
  rcases h c mem with rfl | rfl <;> decide

theorem Blanks.not_mem {s : Text} (h : Blanks s) {d : Char} (space : d ≠ ' ') (tab : d ≠ '\t') :
    d ∉ s := by
  intro mem
  rcases h d mem with rfl | rfl
  · exact space rfl
  · exact tab rfl

theorem blanks_nil : Blanks [] := fun _ mem => nomatch mem

theorem blanks_space : Blanks [' '] := fun _ mem => .inl (List.mem_singleton.mp mem)

end Blanks

/-- Not a character that gives a condition its structure. -/
def isPlain (c : Char) : Bool := !(['&', '|', '(', ')'].contains c)

theorem isPlain_of_ne {c : Char} (h : c ≠ '&' ∧ c ≠ '|' ∧ c ≠ '(' ∧ c ≠ ')') :
    isPlain c = true := by
  simp [isPlain, h]

theorem plain_of_not_mem {s : Text} (ampersand : '&' ∉ s) (bar : '|' ∉ s) (opening : '(' ∉ s)
    (closing : ')' ∉ s) : ∀ c ∈ s, isPlain c = true := by
  intro c mem
  exact isPlain_of_ne ⟨ne_of_mem_of_not_mem mem ampersand, ne_of_mem_of_not_mem mem bar,
    ne_of_mem_of_not_mem mem opening, ne_of_mem_of_not_mem mem closing⟩

theorem plain_of_isBlank {s : Text} (h : s.IsBlank) : ∀ c ∈ s, isPlain c = true := by
  apply plain_of_not_mem <;> exact h.not_mem (by decide)

theorem plain_among {a s b : Text} (ha : a.IsBlank) (plain : ∀ c ∈ s, isPlain c = true)
    (hb : b.IsBlank) : ∀ c ∈ a ++ (s ++ b), isPlain c = true :=
  List.forall_mem_append.mpr ⟨plain_of_isBlank ha,
    List.forall_mem_append.mpr ⟨plain, plain_of_isBlank hb⟩⟩

theorem Blanks.plain {s : Text} (h : Blanks s) : ∀ c ∈ s, isPlain c = true :=
  plain_of_isBlank h.isBlank

/-- A word of letters, digits and underscores, of any script. -/
def IsWord (s : Text) : Prop := s ≠ [] ∧ ∀ c ∈ s, Unicode.isWord c = true

instance : DecidablePred IsWord := fun s =>
  decidable_of_iff (s ≠ [] ∧ s.all Unicode.isWord = true)
    (and_congr_right fun _ => List.all_eq_true)

namespace IsWord
variable {s : Text}

theorem not_mem (h : IsWord s) {c : Char} (other : Unicode.isWord c = false) : c ∉ s :=
  fun mem => ne_true_of_eq_false other (h.2 c mem)

theorem tight (h : IsWord s) : s.Tight := by
  have blank (c : Char) (mem : c ∈ s) := Unicode.isBlank_of_isWord (h.2 c mem)
  exact ⟨s.head h.1, s.getLast h.1, List.head?_eq_some_head h.1, List.getLast?_eq_some_getLast h.1,
    blank _ (List.head_mem h.1), blank _ (List.getLast_mem h.1)⟩

theorem plain (h : IsWord s) : ∀ c ∈ s, isPlain c = true := by
  apply plain_of_not_mem <;> exact h.not_mem (by decide)

end IsWord

theorem isWord_of_isNameChar {c : Char} (h : isNameChar c = true) : Unicode.isWord c = true := by
  have small : c.toNat < 123 := by
    delta isNameChar Char.isAlphanum Char.isAlpha Char.isUpper Char.isLower Char.isDigit at h
    simp only [Bool.or_eq_true, Bool.and_eq_true, decide_eq_true_eq, UInt32.le_iff_toNat_le,
      ge_iff_le] at h
    rcases h with ((⟨-, upper⟩ | ⟨-, upper⟩) | ⟨-, upper⟩) | rfl
    · exact Nat.lt_of_le_of_lt upper (by decide)
    · exact Nat.lt_of_le_of_lt upper (by decide)
    · exact Nat.lt_of_le_of_lt upper (by decide)
    · decide
  have ascii : ∀ n < 123, isNameChar (Char.ofNat n) = true →
      Unicode.isWord (Char.ofNat n) = true := by decide +kernel
  have own := ascii c.toNat small
  rw [Char.ofNat_toNat] at own
  exact own h

theorem IsName.isWord {s : Text} (h : IsName s) : IsWord s :=
  ⟨h.1, fun c mem => isWord_of_isNameChar (h.2 c mem)⟩

theorem IsName.not_mem {s : Text} (h : IsName s) {d : Char} (other : isNameChar d = false) :
    d ∉ s := by
  intro mem
  exact ne_true_of_eq_false other (h.2 d mem)

section Literals

theorem IsLiteral.not_mem {s : Text} (h : IsLiteral s) {d : Char} (digit : d.isDigit = false)
    (minus : d ≠ '-') : d ∉ s := by
  obtain ⟨digits, rfl | rfl, -, all⟩ := h
  · exact fun mem => ne_true_of_eq_false digit (all d mem)
  · intro mem
    rcases List.mem_cons.mp mem with rfl | mem
    · exact minus rfl
    · exact ne_true_of_eq_false digit (all d mem)

theorem IsLiteral.tight {s : Text} (h : IsLiteral s) : s.Tight := by
  obtain ⟨digits, spelled, filled, all⟩ := h
  have name : IsName digits :=
    ⟨filled, fun c mem => by simp [isNameChar, Char.isAlphanum, all c mem]⟩
  obtain ⟨c, d, head, last, hc, hd⟩ := name.isWord.tight
  rcases spelled with rfl | rfl
  · exact ⟨c, d, head, last, hc, hd⟩
  · exact ⟨'-', d, rfl, by simp [List.getLast?_cons, last], by decide, hd⟩

theorem IsLiteral.plain {s : Text} (h : IsLiteral s) : ∀ c ∈ s, isPlain c = true := by
  apply plain_of_not_mem <;> exact h.not_mem (by decide) (by decide)

end Literals

theorem plain_word : ∀ c ∈ "defined".toList, isPlain c = true := List.all_eq_true.mp (by decide)

theorem Comparison.plain_sign (comparison : Comparison) :
    ∀ c ∈ comparison.sign, isPlain c = true ∧ c ≠ '[' := by
  have all : comparison.sign.all (fun c => isPlain c && c != '[') = true := by
    cases comparison <;> decide
  simpa using all

theorem plain_compare {u v a b : Text} (hu : ∀ c ∈ u, isPlain c = true)
    (hv : ∀ c ∈ v, isPlain c = true) (ha : a.IsBlank) (hb : b.IsBlank) (comparison : Comparison) :
    ∀ c ∈ u ++ (a ++ (comparison.sign ++ (b ++ v))), isPlain c = true := by
  intro c mem
  simp only [List.mem_append] at mem
  rcases mem with mem | mem | mem | mem | mem
  · exact hu c mem
  · exact plain_of_isBlank ha c mem
  · exact (Comparison.plain_sign comparison c mem).1
  · exact plain_of_isBlank hb c mem
  · exact hv c mem

end Guard
end ShaderPrep
