import Mathlib.Data.List.Induction
import ShaderPrep.Proofs.Text.Laws

/-! Words of a text: what stands between its blanks. A text can be cut at each of its words, and
squeezed until no blanks are left. -/
namespace ShaderPrep.Text

/-- The words of a text, in order. -/
def words (s : Text) : List Text := (s.splitOnP Unicode.isBlank).filter (· ≠ [])

/-- A text that goes on with no word: nothing, or a blank first. -/
def Apart (s : Text) : Prop := ∀ c ∈ s.head?, Unicode.isBlank c = true

variable {s t w gap rest : Text}

@[simp] theorem words_nil : words [] = [] := rfl

theorem apart_nil : Apart [] := fun c head => absurd head (by simp)

/-- Words do not reach over a blank. -/
theorem words_append_blank {c : Char} (blank : Unicode.isBlank c = true) (s t : Text) :
    words (s ++ c :: t) = words s ++ words t := by
  rw [words, List.splitOnP_append_cons s t blank, List.filter_append]
  rfl

theorem words_solid (filled : s ≠ []) (solid : Solid s) : words s = [s] := by
  have whole : s.splitOnP Unicode.isBlank = [s] := List.splitOnP_eq_singleton solid
  simp [words, whole, filled]

theorem words_blank_append (blank : IsBlank gap) (t : Text) : words (gap ++ t) = words t := by
  induction gap with
  | nil => rfl
  | cons c gap ih =>
    have behind := words_append_blank (blank c List.mem_cons_self) [] (gap ++ t)
    exact behind.trans (ih fun d mem => blank d (List.mem_cons_of_mem c mem))

theorem IsBlank.words_eq_nil (blank : IsBlank s) : words s = [] := by
  have all := words_blank_append blank []
  rwa [List.append_nil] at all

theorem Apart.words_append (apart : Apart t) (s : Text) : words (s ++ t) = words s ++ words t := by
  cases t with
  | nil => rw [List.append_nil, words_nil, List.append_nil]
  | cons c t =>
    have blank := apart c rfl
    rw [words_append_blank blank, show words (c :: t) = words t from words_append_blank blank [] t]

theorem words_word_append (filled : w ≠ []) (solid : Solid w) (apart : Apart rest) :
    words (w ++ rest) = w :: words rest := by
  rw [apart.words_append, words_solid filled solid, List.singleton_append]

theorem apart_dropWhile (s : Text) : Apart (s.dropWhile fun c => !Unicode.isBlank c) := by
  intro c head
  have other := List.head?_dropWhile_not (fun c => !Unicode.isBlank c) s
  rw [Option.mem_def.mp head] at other
  simpa using other

/-- A text is blank, or it has a first word behind its first blanks. -/
theorem isBlank_or_exists_word (s : Text) :
    IsBlank s ∨ ∃ gap w rest, s = gap ++ (w ++ rest) ∧ IsBlank gap ∧ w ≠ [] ∧ Solid w ∧
      Apart rest := by
  let behind := s.dropWhile Unicode.isBlank
  have cut : s = s.takeWhile Unicode.isBlank ++ behind := List.takeWhile_append_dropWhile.symm
  have gap : IsBlank (s.takeWhile Unicode.isBlank) := List.all_eq_true.mp List.all_takeWhile
  cases start : behind with
  | nil =>
    rw [start, List.append_nil] at cut
    exact .inl (cut ▸ gap)
  | cons c more =>
    have filled : Unicode.isBlank c = false := not_of_dropWhile_eq_cons start
    refine .inr ⟨_, behind.takeWhile (!Unicode.isBlank ·), behind.dropWhile (!Unicode.isBlank ·),
      ?_, gap, ?_, fun d mem => ?_, apart_dropWhile behind⟩
    · rw [List.takeWhile_append_dropWhile]
      exact cut
    · rw [start, List.takeWhile_cons_of_pos (by simp [filled])]
      exact List.cons_ne_nil _ _
    · have solid := List.all_eq_true.mp List.all_takeWhile d mem
      simpa using solid

/-- A text can be cut at each of its words. -/
theorem exists_of_words_eq {front tail : List Text} (h : words s = front ++ w :: tail) :
    ∃ before rest, s = before ++ (w ++ rest) ∧ Apart rest ∧ words rest = tail := by
  induction front generalizing s with
  | nil =>
    rcases isBlank_or_exists_word s with blank | ⟨gap, w', rest, rfl, blank, filled, solid, apart⟩
    · rw [blank.words_eq_nil] at h
      cases h
    · rw [words_blank_append blank, words_word_append filled solid apart] at h
      obtain ⟨rfl, rfl⟩ := List.cons.inj h
      exact ⟨gap, rest, rfl, apart, rfl⟩
  | cons first front ih =>
    rcases isBlank_or_exists_word s with blank | ⟨gap, w', rest, rfl, blank, filled, solid, apart⟩
    · rw [blank.words_eq_nil] at h
      cases h
    · rw [words_blank_append blank, words_word_append filled solid apart] at h
      obtain ⟨before, rest', rfl, behind⟩ := ih (List.cons.inj h).2
      exact ⟨gap ++ (w' ++ before), rest', by simp, behind⟩

/-- The last word ends in what a text ends in, if this has no blanks. -/
theorem exists_last_word (filled : w ≠ []) (solid : Solid w) (s : Text) :
    ∃ front last, words (s ++ w) = front ++ [last] ∧ w <:+ last := by
  induction s using List.reverseRecOn generalizing w with
  | nil => exact ⟨[], w, words_solid filled solid, List.suffix_refl w⟩
  | append_singleton s c ih =>
    rw [List.append_assoc, List.singleton_append]
    cases blank : Unicode.isBlank c with
    | true =>
      rw [words_append_blank blank, words_solid filled solid]
      exact ⟨words s, w, rfl, List.suffix_refl w⟩
    | false =>
      have longer : Solid (c :: w) := List.forall_mem_cons.mpr ⟨blank, solid⟩
      obtain ⟨front, last, whole, suffix⟩ := ih (List.cons_ne_nil c w) longer
      exact ⟨front, last, whole, (List.suffix_cons c w).trans suffix⟩

section Squeeze

/-- The text without its blanks. -/
def squeeze (s : Text) : Text := s.filter fun c => !Unicode.isBlank c

theorem squeeze_subset (s : Text) : squeeze s ⊆ s := List.filter_sublist.subset

theorem not_mem_squeeze {c : Char} (h : c ∉ s) : c ∉ squeeze s :=
  fun mem => h (squeeze_subset s mem)

theorem squeeze_append (s t : Text) : squeeze (s ++ t) = squeeze s ++ squeeze t :=
  List.filter_append ..

theorem squeeze_eq_nil_iff : squeeze s = [] ↔ IsBlank s := by
  simp [squeeze, List.filter_eq_nil_iff, IsBlank]

theorem squeeze_cut (s t : Text) : squeeze (s ++ ';' :: t) = squeeze s ++ ';' :: squeeze t :=
  squeeze_append s (';' :: t)

theorem squeeze_flatMap {α : Type*} (l : List α) (f : α → Text) :
    squeeze (l.flatMap f) = l.flatMap fun a => squeeze (f a) :=
  List.filter_flatMap ..

/-- A text is its trimmed form between blanks. -/
theorem exists_eq_trim (s : Text) : ∃ a b, s = a ++ (s.trim ++ b) ∧ IsBlank a ∧ IsBlank b := by
  obtain ⟨b, behind, blank⟩ := exists_eq_trimEnd_append (trimStart s)
  refine ⟨s.takeWhile Unicode.isBlank, b, ?_, List.all_eq_true.mp List.all_takeWhile, blank⟩
  exact List.takeWhile_append_dropWhile.symm.trans (congrArg _ behind)

theorem squeeze_trim (s : Text) : squeeze s.trim = squeeze s := by
  obtain ⟨a, b, whole, before, behind⟩ := exists_eq_trim s
  have same := congrArg squeeze whole
  rw [squeeze_append, squeeze_append, squeeze_eq_nil_iff.mpr before, squeeze_eq_nil_iff.mpr behind,
    List.nil_append, List.append_nil] at same
  exact same.symm

theorem trim_eq_nil_iff : trim s = [] ↔ IsBlank s := by
  refine ⟨fun empty => ?_, IsBlank.trim_eq_nil⟩
  rw [← squeeze_eq_nil_iff, ← squeeze_trim, empty]
  rfl

end Squeeze

end ShaderPrep.Text
