import Mathlib.Data.List.Infix
import ShaderPrep.Proofs.Text.Laws

/-! Passes that put one text in the place of every word of a class. A word that cannot overlap what
is put in comes about nowhere: it stands in the result only where it stood before, and where the
pass did not replace it. A word that cannot overlap what is replaced either occurs as often in the
result as it did before. -/
namespace ShaderPrep.Text

section Overlap
variable {s t u v w : Text}

/-- One of the texts starts with the other. -/
def Compatible (s t : Text) : Prop := s <+: t ∨ t <+: s

instance (s t : Text) : Decidable (Compatible s t) := inferInstanceAs (Decidable (_ ∨ _))

theorem compatible_of_append_eq {x y : Text} (same : s ++ x = t ++ y) : Compatible s t :=
  List.prefix_or_prefix_of_prefix (List.prefix_append s x) (same ▸ List.prefix_append t y)

theorem Compatible.of_append {x y : Text} (h : Compatible (s ++ x) (t ++ y)) : Compatible s t := by
  rcases h with ⟨z, same⟩ | ⟨z, same⟩
  · rw [List.append_assoc] at same
    exact compatible_of_append_eq same
  · rw [List.append_assoc] at same
    exact compatible_of_append_eq same.symm

/-- The second text starts nowhere inside of the first, whatever follows that. -/
def Excludes (u v : Text) : Prop := ∀ t, t <:+ u → t ≠ [] → ¬Compatible t v

instance (u v : Text) : Decidable (Excludes u v) :=
  decidable_of_iff (∀ t ∈ u.tails, t ≠ [] → ¬Compatible t v) (by simp [Excludes])

theorem excludes_of_notMem {c : Char} (h : c ∉ u) (v : Text) : Excludes u (c :: v) := by
  intro t suffix filled compatible
  obtain ⟨d, t, rfl⟩ := List.exists_cons_of_ne_nil filled
  have inside : d ∈ u := suffix.subset List.mem_cons_self
  rcases compatible with before | before
  · exact h ((List.cons_prefix_cons.mp before).1 ▸ inside)
  · exact h ((List.cons_prefix_cons.mp before).1 ▸ inside)

theorem excludes_of_head {p : Char → Bool} (start : v.head?.any p = true)
    (free : ∀ c, p c = true → c ∉ u) : Excludes u v := by
  cases v with
  | nil => cases start
  | cons c v =>
    rw [List.head?_cons, Option.any_some] at start
    exact excludes_of_notMem (free c start) v

theorem Excludes.of_suffix (h : Excludes u v) (suffix : t <:+ u) : Excludes t v :=
  fun _ part => h _ (part.trans suffix)

theorem Excludes.append_right (h : Excludes u v) (w : Text) : Excludes u (v ++ w) := by
  intro t suffix filled compatible
  rw [← List.append_nil t] at compatible
  exact h t suffix filled compatible.of_append

theorem Excludes.append (first : Excludes u w) (last : Excludes v w) : Excludes (u ++ v) w := by
  rintro t ⟨x, same⟩ filled compatible
  rcases List.append_eq_append_iff.mp same with ⟨a, whole, rfl⟩ | ⟨a, -, rfl⟩
  · by_cases empty : a = []
    · subst empty
      exact last v (List.suffix_refl v) filled compatible
    · apply first a (whole ▸ List.suffix_append x a) empty
      rw [← List.append_nil w] at compatible
      exact compatible.of_append
  · exact last t (List.suffix_append a t) filled compatible

/-- Wherever both stand in a text, they do not overlap. -/
def Separate (u v : Text) : Prop := Excludes u v ∧ Excludes v u

instance (u v : Text) : Decidable (Separate u v) := inferInstanceAs (Decidable (_ ∧ _))

end Overlap

/-- The rule puts `new` in the place of each word of a class, and does nothing else. -/
structure Rule.Replaces (rule : Rule) (words : Text → Prop) (new : Text) : Prop where
  iff : ∀ s x n, rule s = some (x, n) ↔
    x = new ∧ ∃ w rest, words w ∧ s = w ++ rest ∧ n = w.length
  filled : ∀ w, words w → w ≠ []

theorem replaces_word {word : Text} (filled : word ≠ []) (new : Text) :
    (wordRule word new).Replaces (· = word) new where
  iff s x n := by
    constructor
    · intro found
      obtain ⟨rest, behind, same⟩ := Option.map_eq_some_iff.mp found
      obtain ⟨rfl, rfl⟩ := Prod.mk.inj same
      exact ⟨rfl, word, rest, rfl, after?_eq_some.mp behind, rfl⟩
    · rintro ⟨rfl, _, rest, rfl, rfl, rfl⟩
      rw [wordRule, after?_append]
      rfl
  filled := by
    rintro _ rfl
    exact filled

/-- The text starts with a word of the class. -/
def Starts (words : Text → Prop) (s : Text) : Prop := ∃ w rest, words w ∧ s = w ++ rest

/-- Some word of the class stands somewhere in the text. -/
def Contains (words : Text → Prop) (s : Text) : Prop :=
  ∃ before rest, s = before ++ rest ∧ Starts words rest

theorem begins_iff_starts {word s : Text} : begins word s = true ↔ Starts (· = word) s := by
  rw [begins_iff]
  constructor
  · rintro ⟨rest, rfl⟩
    exact ⟨word, rest, rfl, rfl⟩
  · rintro ⟨_, rest, rfl, rfl⟩
    exact ⟨rest, rfl⟩

theorem contains_word_iff {word s : Text} : Contains (· = word) s ↔ occurs word s = true := by
  rw [occurs_iff]
  constructor
  · rintro ⟨before, _, rfl, _, rest, rfl, rfl⟩
    exact ⟨before, rest, (List.append_assoc ..).symm⟩
  · rintro ⟨before, rest, rfl⟩
    exact ⟨before, word ++ rest, List.append_assoc .., word, rest, rfl, rfl⟩

/-- Where a word starts behind a text that excludes it, it starts behind the whole of that text. -/
theorem exists_of_append_eq {words : Text → Prop} {u s before rest : Text}
    (whole : u ++ s = before ++ rest) (starts : Starts words rest)
    (free : ∀ v, words v → Excludes u v) :
    ∃ before', before = u ++ before' ∧ s = before' ++ rest := by
  rcases List.append_eq_append_iff.mp whole with ⟨a, front, tail⟩ | ⟨a, inside, tail⟩
  · exact ⟨a, front, tail⟩
  · obtain ⟨v, r, own, rfl⟩ := starts
    by_cases empty : a = []
    · subst empty
      rw [List.append_nil] at inside
      exact ⟨[], by rw [inside, List.append_nil], tail.symm⟩
    · exact absurd (compatible_of_append_eq tail.symm)
        (free v own a (inside ▸ List.suffix_append before a) empty)

theorem not_contains_append {words : Text → Prop} {u s : Text}
    (free : ∀ v, words v → Excludes u v) (absent : ¬Contains words s) :
    ¬Contains words (u ++ s) := by
  rintro ⟨before, rest, whole, starts⟩
  obtain ⟨before', -, tail⟩ := exists_of_append_eq whole starts free
  exact absent ⟨before', rest, tail, starts⟩

namespace Rule.Replaces
variable {rule : Rule} {words words' : Text → Prop} {new b s w : Text}

theorem eq_none_iff (h : rule.Replaces words new) : rule s = none ↔ ¬Starts words s := by
  constructor
  · rintro none ⟨w, rest, own, whole⟩
    have found := (h.iff s new w.length).mpr ⟨rfl, w, rest, own, whole, rfl⟩
    rw [none] at found
    cases found
  · intro other
    refine Option.eq_none_iff_forall_ne_some.mpr fun ⟨x, n⟩ found => other ?_
    obtain ⟨-, w, rest, own, whole, -⟩ := (h.iff s x n).mp found
    exact ⟨w, rest, own, whole⟩

theorem isSome_iff (h : rule.Replaces words new) : (rule s).isSome = true ↔ Starts words s := by
  rw [Option.isSome_iff_ne_none, ne_eq, h.eq_none_iff, not_not]

theorem rule_nil (h : rule.Replaces words new) : rule [] = none := by
  refine h.eq_none_iff.mpr ?_
  rintro ⟨w, rest, own, empty⟩
  exact h.filled w own (List.append_eq_nil_iff.mp empty.symm).1

theorem substitute_append (h : rule.Replaces words new) (own : words w) (t : Text) :
    substitute rule (w ++ t) = new ++ substitute rule t :=
  substitute_append_of_some (h.filled w own)
    ((h.iff _ new w.length).mpr ⟨rfl, w, t, own, rfl, rfl⟩)

/-- A text is empty, starts with a character that is kept, or with a word that is replaced. -/
theorem induction (h : rule.Replaces words new) {motive : Text → Prop} (nil : motive [])
    (kept : ∀ c s, rule (c :: s) = none → motive s → motive (c :: s))
    (replaced : ∀ w s, words w → motive s → motive (w ++ s)) (s : Text) : motive s := by
  match s with
  | [] => exact nil
  | c :: s =>
    by_cases starts : Starts words (c :: s)
    · obtain ⟨w, rest, own, whole⟩ := starts
      rw [whole]
      exact replaced w rest own (induction h nil kept replaced rest)
    · exact kept c s (h.eq_none_iff.mpr starts) (induction h nil kept replaced s)
termination_by s.length
decreasing_by
  · have size := congrArg List.length whole
    have positive := List.length_pos_iff.mpr (h.filled w own)
    simp only [List.length_append] at size
    omega
  · exact Nat.lt_succ_self s.length

/-- What the result starts with, the text starts with, unless it overlaps what is put in. -/
theorem prefix_of_prefix_substitute (h : rule.Replaces words new) (free : Excludes b new)
    (begins : b <+: substitute rule s) : b <+: s := by
  induction b generalizing s with
  | nil => exact List.nil_prefix
  | cons d b ih =>
    cases s with
    | nil => exact begins
    | cons c s =>
      by_cases starts : Starts words (c :: s)
      · obtain ⟨w, rest, own, whole⟩ := starts
        rw [whole, h.substitute_append own] at begins
        obtain ⟨r, same⟩ := begins
        exact absurd (compatible_of_append_eq same) (free _ (List.suffix_refl _) (by simp))
      · rw [substitute_cons_of_none (h.eq_none_iff.mpr starts)] at begins
        obtain ⟨rfl, tail⟩ := List.cons_prefix_cons.mp begins
        exact List.cons_prefix_cons.mpr ⟨rfl, ih (free.of_suffix (List.suffix_cons d b)) tail⟩

/-- What the text starts with, the result starts with, unless it overlaps what is replaced. -/
theorem prefix_substitute (h : rule.Replaces words new) (free : ∀ w, words w → Excludes b w)
    (begins : b <+: s) : b <+: substitute rule s := by
  induction b generalizing s with
  | nil => exact List.nil_prefix
  | cons d b ih =>
    obtain ⟨r, rfl⟩ := begins
    have other : ¬Starts words (d :: (b ++ r)) := by
      rintro ⟨w, rest, own, whole⟩
      exact free w own _ (List.suffix_refl _) (by simp) (compatible_of_append_eq whole)
    rw [List.cons_append, substitute_cons_of_none (h.eq_none_iff.mpr other)]
    refine List.cons_prefix_cons.mpr ⟨rfl, ih (fun w own => ?_) (List.prefix_append b r)⟩
    exact (free w own).of_suffix (List.suffix_cons d b)

/-- A word whose rest overlaps nothing that is put in starts at a kept character of the result only
if it did before. -/
theorem starts_of_starts_substitute {c : Char} (h : rule.Replaces words new)
    (free : ∀ v, words' v → Excludes v.tail new) (starts : Starts words' (c :: substitute rule s)) :
    Starts words' (c :: s) := by
  obtain ⟨v, rest, own, whole⟩ := starts
  cases v with
  | nil => exact ⟨[], c :: s, own, rfl⟩
  | cons d v =>
    obtain ⟨rfl, tail⟩ := List.cons.inj whole
    obtain ⟨r, rfl⟩ := h.prefix_of_prefix_substitute (free _ own) ⟨rest, tail.symm⟩
    exact ⟨c :: v, r, own, rfl⟩

/-- A word whose rest overlaps nothing that is replaced still starts where it did before. -/
theorem starts_substitute {c : Char} (h : rule.Replaces words new)
    (free : ∀ v w, words' v → words w → Excludes v.tail w) (starts : Starts words' (c :: s)) :
    Starts words' (c :: substitute rule s) := by
  obtain ⟨v, rest, own, whole⟩ := starts
  cases v with
  | nil => exact ⟨[], c :: substitute rule s, own, rfl⟩
  | cons d v =>
    obtain ⟨rfl, tail⟩ := List.cons.inj whole
    have begins : v <+: s := ⟨rest, tail.symm⟩
    obtain ⟨r, same⟩ := h.prefix_substitute (fun w replaced => free _ w own replaced) begins
    exact ⟨c :: v, r, own, congrArg (c :: ·) same.symm⟩

theorem starts_kept_iff {c : Char} (h : rule.Replaces words new)
    (rests : ∀ v, words' v → Excludes v.tail new)
    (free : ∀ v w, words' v → words w → Excludes v.tail w) :
    Starts words' (c :: substitute rule s) ↔ Starts words' (c :: s) :=
  ⟨h.starts_of_starts_substitute rests, h.starts_substitute free⟩

/-- A word that overlaps nothing that is put in stands in the result only where it stood before, and
was not replaced. -/
theorem exists_of_contains_substitute (h : rule.Replaces words new)
    (free : ∀ v, words' v → Separate v new) (found : Contains words' (substitute rule s)) :
    ∃ before rest, s = before ++ rest ∧ ¬Starts words rest ∧ Starts words' rest := by
  obtain ⟨before, rest, whole, starts⟩ := found
  induction s using h.induction generalizing before with
  | nil =>
    obtain ⟨-, rfl⟩ := List.append_eq_nil_iff.mp whole.symm
    exact ⟨[], [], rfl, h.eq_none_iff.mp (h.rule_nil), starts⟩
  | kept c s none ih =>
    rw [substitute_cons_of_none none] at whole
    cases before with
    | nil =>
      rw [List.nil_append] at whole
      rw [← whole] at starts
      have rests (v : Text) (own : words' v) : Excludes v.tail new :=
        (free v own).1.of_suffix (List.tail_suffix v)
      exact ⟨[], c :: s, rfl, h.eq_none_iff.mp none, h.starts_of_starts_substitute rests starts⟩
    | cons d before =>
      obtain ⟨rfl, tail⟩ := List.cons.inj whole
      obtain ⟨before', rest', rfl, here⟩ := ih before tail
      exact ⟨c :: before', rest', rfl, here⟩
  | replaced w s replaced ih =>
    rw [h.substitute_append replaced] at whole
    obtain ⟨before', -, tail⟩ := exists_of_append_eq whole starts fun v own => (free v own).2
    obtain ⟨before', rest', rfl, here⟩ := ih before' tail
    exact ⟨w ++ before', rest', (List.append_assoc ..).symm, here⟩

/-- A pass brings no word about that overlaps nothing that it puts in. -/
theorem not_contains_substitute (h : rule.Replaces words new)
    (free : ∀ v, words' v → Separate v new) (absent : ¬Contains words' s) :
    ¬Contains words' (substitute rule s) := by
  intro found
  obtain ⟨before, rest, whole, -, starts⟩ := h.exists_of_contains_substitute free found
  exact absent ⟨before, rest, whole, starts⟩

/-- A pass leaves none of the words that it replaces, if they overlap nothing that it puts in. -/
theorem not_contains_replaced (h : rule.Replaces words new) (free : ∀ w, words w → Separate w new)
    (s : Text) : ¬Contains words (substitute rule s) := by
  intro found
  obtain ⟨_, _, -, other, starts⟩ := h.exists_of_contains_substitute free found
  exact other starts

end Rule.Replaces

section Count
variable {p q : Text → Bool} {rule : Rule} {words words' : Text → Prop} {new u : Text}

/-- How often there is a place in a text from which on the predicate holds. -/
def placeCount (p : Text → Bool) : Text → Nat
  | [] => 0
  | c :: s => (if p (c :: s) then 1 else 0) + placeCount p s

/-- Nothing starts inside of a text that excludes it. -/
theorem placeCount_append (counts : ∀ s, p s = true ↔ Starts words' s)
    (free : ∀ v, words' v → Excludes u v) (s : Text) : placeCount p (u ++ s) = placeCount p s := by
  induction u with
  | nil => rfl
  | cons c u ih =>
    have none : p (c :: (u ++ s)) = false := by
      refine Bool.eq_false_iff.mpr fun found => ?_
      obtain ⟨v, rest, own, whole⟩ := (counts _).mp found
      exact free v own _ (List.suffix_refl (c :: u)) (by simp) (compatible_of_append_eq whole)
    have inner := ih fun v own => (free v own).of_suffix (List.suffix_cons c u)
    rw [List.cons_append, placeCount, none, inner]
    exact Nat.zero_add _

theorem placeCount_eq_zero (counts : ∀ s, p s = true ↔ Starts words' s) {s : Text}
    (absent : ¬Contains words' s) : placeCount p s = 0 := by
  induction s with
  | nil => rfl
  | cons c s ih =>
    have none : p (c :: s) = false := Bool.eq_false_iff.mpr fun found =>
      absent ⟨[], c :: s, rfl, (counts _).mp found⟩
    have inner := ih fun ⟨before, rest, whole, starts⟩ =>
      absent ⟨c :: before, rest, congrArg (c :: ·) whole, starts⟩
    rw [placeCount, none, inner]
    rfl

namespace Rule.Replaces

/-- Each replacement adds as many occurrences as there are in what is put in; all others stay, if
their words overlap neither what is put in from the front nor what is replaced. -/
theorem placeCount_substitute_add (h : rule.Replaces words new)
    (counts : ∀ s, p s = true ↔ Starts words' s) (replaces : ∀ s, q s = true ↔ Starts words s)
    (k : Nat) (inserted : ∀ t, placeCount p (new ++ t) = k + placeCount p t)
    (rests : ∀ v, words' v → Excludes v.tail new)
    (free : ∀ v w, words' v → words w → Separate v w)
    (alone : ∀ w w', words w → words w' → Excludes w.tail w') (s : Text) :
    placeCount p (substitute rule s) = placeCount p s + k * placeCount q s := by
  induction s using h.induction with
  | nil => rfl
  | kept c s none ih =>
    have same : p (c :: substitute rule s) = p (c :: s) := by
      rw [Bool.eq_iff_iff, counts, counts]
      apply h.starts_kept_iff rests
      intro v w own replaced
      exact (free v w own replaced).1.of_suffix (List.tail_suffix v)
    have other : q (c :: s) = false :=
      Bool.eq_false_iff.mpr fun starts => h.eq_none_iff.mp none ((replaces _).mp starts)
    rw [substitute_cons_of_none none, placeCount, placeCount, placeCount, same, ih, other]
    simp only [Bool.false_eq_true, if_false, Nat.zero_add, Nat.add_assoc]
  | replaced w s own ih =>
    have covered := placeCount_append counts (fun v other => (free v w other own).2) s
    obtain ⟨c, w, rfl⟩ := List.exists_cons_of_ne_nil (h.filled _ own)
    have first : q (c :: (w ++ s)) = true := (replaces _).mpr ⟨c :: w, s, own, rfl⟩
    have once : placeCount q (c :: w ++ s) = 1 + placeCount q s := by
      rw [List.cons_append, placeCount, if_pos first]
      exact congrArg (1 + ·) (placeCount_append replaces (alone _ · own) s)
    rw [h.substitute_append own, inserted, ih, covered, once, Nat.mul_add]
    omega

/-- What overlaps neither the words that a pass replaces nor what it puts in occurs as often as
before. -/
theorem placeCount_substitute (h : rule.Replaces words new)
    (counts : ∀ s, p s = true ↔ Starts words' s)
    (free : ∀ v, words' v → Separate v new ∧ ∀ w, words w → Separate v w) (s : Text) :
    placeCount p (substitute rule s) = placeCount p s := by
  induction s using h.induction with
  | nil => rfl
  | kept c s none ih =>
    have same : p (c :: substitute rule s) = p (c :: s) := by
      rw [Bool.eq_iff_iff, counts, counts]
      apply h.starts_kept_iff
      · intro v own
        exact (free v own).1.1.of_suffix (List.tail_suffix v)
      · intro v w own replaced
        exact ((free v own).2 w replaced).1.of_suffix (List.tail_suffix v)
    rw [substitute_cons_of_none none, placeCount, placeCount, same, ih]
  | replaced w s own ih =>
    rw [h.substitute_append own, placeCount_append counts (fun v other => (free v other).1.2), ih,
      placeCount_append counts (fun v other => ((free v other).2 w own).2)]

end Rule.Replaces
end Count

/-- A pass over a text: what it replaces, and what it puts in. -/
structure Pass where
  rule : Rule
  words : Text → Prop
  new : Text
  replaces : rule.Replaces words new

namespace Pass
variable {passes : List Pass} {words : Text → Prop} {s : Text}

/-- The passes one after the other. -/
def run (passes : List Pass) (s : Text) : Text := passes.foldl (fun s p => substitute p.rule s) s

theorem run_append (first last : List Pass) (s : Text) :
    run (first ++ last) s = run last (run first s) :=
  List.foldl_append

theorem not_contains_run (free : ∀ p ∈ passes, ∀ v, words v → Separate v p.new)
    (absent : ¬Contains words s) : ¬Contains words (run passes s) := by
  induction passes generalizing s with
  | nil => exact absent
  | cons p rest ih =>
    apply ih fun q mem => free q (List.mem_cons_of_mem p mem)
    exact p.replaces.not_contains_substitute (free p List.mem_cons_self) absent

/-- What one of the passes replaces is not there in the end, if it overlaps nothing that any pass
puts in. -/
theorem not_contains_of_mem {p : Pass} (mem : p ∈ passes)
    (free : ∀ q ∈ passes, ∀ v, p.words v → Separate v q.new) (s : Text) :
    ¬Contains p.words (run passes s) := by
  obtain ⟨first, last, rfl⟩ := List.append_of_mem mem
  rw [run_append]
  apply not_contains_run fun q later =>
    free q (List.mem_append_right first (List.mem_cons_of_mem p later))
  exact p.replaces.not_contains_replaced (free p mem) (run first s)

theorem placeCount_run {p : Text → Bool} (counts : ∀ s, p s = true ↔ Starts words s)
    (free : ∀ q ∈ passes, ∀ v, words v → Separate v q.new ∧ ∀ w, q.words w → Separate v w)
    (s : Text) : placeCount p (run passes s) = placeCount p s := by
  induction passes generalizing s with
  | nil => rfl
  | cons q rest ih =>
    refine (ih (fun q mem => free q (List.mem_cons_of_mem _ mem)) _).trans ?_
    exact q.replaces.placeCount_substitute counts (free q List.mem_cons_self) s

end Pass
end ShaderPrep.Text
