import ShaderPrep.Include.Directive
import ShaderPrep.Proofs.Text.Laws

/-! Cutting a source into pieces loses nothing of it, and finds every directive that there is. To be
one, a text has to start with the keyword, an opening mark and a name that ends on the line. -/
namespace ShaderPrep.Include

/-- What may stand between the keyword and the opening mark: a blank or nothing. -/
def Spaced (blank : Text) : Prop := blank = [] ∨ ∃ b, Unicode.isBlank b = true ∧ blank = [b]

/-- A directive with nothing behind its name, which ends at the first mark that can end it. -/
def Bare (w : Text) : Prop :=
  ∃ blank c name, Spaced blank ∧ c ≠ '\n' ∧ '\n' ∉ name ∧ '>' ∉ name ∧
    w = keyword ++ (blank ++ '<' :: c :: name ++ ['>'])

/-- Nothing in the text is a directive. -/
def Clear (s : Text) : Prop := ∀ w, Bare w → ¬w <:+: s

section Read

theorem optionalBlank_eq {s blank rest : Text} (h : optionalBlank s = (blank, rest)) :
    s = blank ++ rest ∧ Spaced blank := by
  cases s with
  | nil =>
    cases h
    exact ⟨rfl, .inl rfl⟩
  | cons c s =>
    rw [optionalBlank] at h
    split at h
    · next space =>
      cases h
      exact ⟨rfl, .inr ⟨c, space, rfl⟩⟩
    · cases h
      exact ⟨rfl, .inl rfl⟩

theorem Spaced.optionalBlank {blank : Text} (h : Spaced blank) (s : Text) :
    optionalBlank (blank ++ '<' :: s) = (blank, '<' :: s) := by
  rcases h with rfl | ⟨b, space, rfl⟩
  · rfl
  · simp [Include.optionalBlank, space]

theorem part_enclosed {opening closing : Char} {s rest : Text} {inner : Option Text}
    (h : enclosed opening closing s = (inner, rest)) : s = part opening closing inner ++ rest := by
  cases s with
  | nil =>
    cases h
    rfl
  | cons c s =>
    rw [enclosed] at h
    split at h
    · next same =>
      split at h
      · next before behind found =>
        cases h
        obtain ⟨rfl, -⟩ := Text.cutLast?_eq_some.mp found
        simp [part, same]
      · cases h
        rfl
    · cases h
      rfl

/-- What a directive is read from. -/
theorem Directive.read?_eq_some {s : Text} {d : Directive} (h : Directive.read? s = some d) :
    ∃ blank parts rest, Spaced blank ∧ d.name ≠ [] ∧ '\n' ∉ d.name ∧
      d.text = keyword ++ (blank ++ '<' :: (d.name ++ '>' :: parts)) ∧ s = d.text ++ rest := by
  simp only [Directive.read?, Option.bind_eq_bind, Option.bind_eq_some_iff] at h
  obtain ⟨s₁, first, h⟩ := h
  obtain rfl := Text.after?_eq_some.mp first
  cases blanks : optionalBlank s₁ with
  | mk blank s₂ =>
    obtain ⟨rfl, spaced⟩ := optionalBlank_eq blanks
    rw [blanks] at h
    obtain ⟨s₃, opening, ⟨name, line⟩, cut, h⟩ := h
    obtain rfl : s₂ = '<' :: s₃ := Text.after?_eq_some.mp opening
    obtain ⟨whole, -⟩ := Text.cutLast?_eq_some.mp cut
    have one : '\n' ∉ s₃.takeWhile (· ≠ '\n') := by
      intro mem
      simpa using List.all_eq_true.mp List.all_takeWhile _ mem
    obtain ⟨behind, lines⟩ : ∃ behind, s₃ = name ++ '>' :: line ++ behind :=
      ⟨s₃.dropWhile (· ≠ '\n'), by rw [← whole, List.takeWhile_append_dropWhile]⟩
    split at h
    · contradiction
    · next filled =>
      cases replaced : enclosed '(' ')' line with
      | mk replacements line₁ =>
        cases ranged : enclosed '[' ']' line₁ with
        | mk range tail =>
          simp only [replaced, ranged, Option.pure_def, Option.some.injEq] at h
          rw [part_enclosed replaced, part_enclosed ranged] at lines
          subst h
          refine ⟨blank, part '(' ')' replacements ++ part '[' ']' range,
            tail ++ behind, spaced, filled, ?_, ?_, ?_⟩
          · rw [whole] at one
            exact fun mem => one (List.mem_append_left _ mem)
          · simp [part]
          · rw [lines]
            simp [part]

theorem Directive.read?_eq_append {s : Text} {d : Directive} (h : Directive.read? s = some d) :
    ∃ rest, s = d.text ++ rest := by
  obtain ⟨-, -, rest, -, -, -, -, whole⟩ := Directive.read?_eq_some h
  exact ⟨rest, whole⟩

theorem Directive.text_ne_nil {s : Text} {d : Directive} (h : Directive.read? s = some d) :
    d.text ≠ [] := by
  obtain ⟨blank, parts, rest, -, -, -, spelled, -⟩ := Directive.read?_eq_some h
  intro empty
  rw [empty] at spelled
  simp at spelled

/-- Whether a directive is read depends on the text up to the end of the name alone. -/
theorem Directive.read?_isSome_iff {s : Text} :
    (Directive.read? s).isSome = true ↔ ∃ w, Bare w ∧ w <+: s := by
  constructor
  · intro h
    obtain ⟨d, read⟩ := Option.isSome_iff_exists.mp h
    obtain ⟨blank, parts, rest, spaced, filled, one, spelled, rfl⟩ := Directive.read?_eq_some read
    obtain ⟨c, name, named⟩ := List.exists_cons_of_ne_nil filled
    rw [named, List.mem_cons, not_or] at one
    rw [spelled, named]
    by_cases mem : '>' ∈ name
    · obtain ⟨start, more, rfl, first⟩ := List.eq_append_cons_of_mem mem
      have inside : '\n' ∉ start := fun mem => one.2 (List.mem_append_left _ mem)
      refine ⟨_, ⟨blank, c, start, spaced, Ne.symm one.1, inside, first, rfl⟩,
        more ++ '>' :: parts ++ rest, ?_⟩
      simp
    · refine ⟨_, ⟨blank, c, name, spaced, Ne.symm one.1, one.2, mem, rfl⟩, parts ++ rest, ?_⟩
      simp
  · rintro ⟨w, ⟨blank, c, name, spaced, inside, one, -, rfl⟩, rest, rfl⟩
    have keep : ∀ x ∈ c :: name ++ ['>'], decide (x ≠ '\n') = true := by
      intro x mem
      simp only [List.cons_append, List.mem_cons, List.mem_append, List.not_mem_nil,
        or_false] at mem
      rw [decide_eq_true_eq]
      rintro rfl
      rcases mem with rfl | mem | mem
      · exact inside rfl
      · exact one mem
      · contradiction
    have line : (c :: name ++ ['>'] ++ rest).takeWhile (· ≠ '\n') =
        c :: (name ++ '>' :: rest.takeWhile (· ≠ '\n')) := by
      rw [List.takeWhile_append_of_pos keep]
      simp
    obtain ⟨before, behind, whole, last⟩ :=
      Text.exists_last_of_mem (c := '>') (s := c :: (name ++ '>' :: rest.takeWhile (· ≠ '\n')))
        (by simp)
    have filled : before ≠ [] := by
      rintro rfl
      obtain ⟨-, rfl⟩ := List.cons.inj whole
      simp at last
    have cut := Text.cutLast?_eq_some.mpr ⟨whole, last⟩
    have start : keyword ++ (blank ++ '<' :: c :: name ++ ['>']) ++ rest =
        keyword ++ (blank ++ '<' :: (c :: name ++ ['>'] ++ rest)) := by simp
    have opening (t : Text) : Text.after? ['<'] ('<' :: t) = some t := Text.after?_append ['<'] t
    rw [start, Directive.read?]
    simp only [Text.after?_append, Option.bind_eq_bind, Option.bind_some, spaced.optionalBlank,
      opening, line, cut, if_neg filled]
    rfl

theorem Directive.read?_eq_none_iff {s : Text} :
    Directive.read? s = none ↔ ∀ w, Bare w → ¬w <+: s := by
  rw [← Option.not_isSome_iff_eq_none, Directive.read?_isSome_iff]
  simp

end Read

theorem clear_cons {c : Char} {s : Text} :
    Clear (c :: s) ↔ Directive.read? (c :: s) = none ∧ Clear s := by
  rw [Directive.read?_eq_none_iff]
  simp only [Clear, List.infix_cons_iff, not_or, imp_and, forall_and]

theorem Clear.infix {s t : Text} (h : Clear t) (inside : s <:+: t) : Clear s :=
  fun w bare found => h w bare (found.trans inside)

section Split

theorem split_cons {c : Char} {s : Text} (h : Directive.read? (c :: s) = none) :
    split (c :: s) = consChar c (split s) := by
  simp only [split, splitFrom, h]

theorem splitFrom_length_append (u t : Text) : splitFrom u.length (u ++ t) = split t := by
  induction u with
  | nil => rfl
  | cons c u ih => exact ih

theorem split_directive {d : Directive} {t : Text}
    (h : Directive.read? (d.text ++ t) = some d) :
    split (d.text ++ t) = (⟨[], d⟩ :: (split t).1, (split t).2) := by
  obtain ⟨c, u, spelled⟩ := List.exists_cons_of_ne_nil (Directive.text_ne_nil h)
  rw [spelled, List.cons_append] at h
  rw [split, spelled, List.cons_append, splitFrom, h]
  simp only [spelled, List.length_cons, Nat.add_sub_cancel, splitFrom_length_append]

/-- A text is empty, or a character at which no directive starts or else a directive comes
first. -/
theorem split_induction {motive : Text → Prop} (nil : motive [])
    (char : ∀ c s, Directive.read? (c :: s) = none → motive s → motive (c :: s))
    (directive : ∀ d t, Directive.read? (d.text ++ t) = some d → motive t → motive (d.text ++ t))
    (s : Text) : motive s := by
  cases s with
  | nil => exact nil
  | cons c s =>
    cases read : Directive.read? (c :: s) with
    | none => exact char c s read (split_induction nil char directive s)
    | some d =>
      obtain ⟨t, whole⟩ := Directive.read?_eq_append read
      have filled := Directive.text_ne_nil read
      rw [whole] at read ⊢
      exact directive d t read (split_induction nil char directive t)
termination_by s.length
decreasing_by
  · exact Nat.lt_succ_self s.length
  · have positive := List.length_pos_iff.mpr filled
    rw [whole, List.length_append]
    omega

theorem unsplit_consChar (c : Char) (cut : List Piece × Text) :
    unsplit (consChar c cut).1 (consChar c cut).2 = c :: unsplit cut.1 cut.2 := by
  obtain ⟨pieces, tail⟩ := cut
  cases pieces with
  | nil => rfl
  | cons piece pieces => simp [consChar, unsplit]

/-- The pieces and the tail make up the source. -/
theorem unsplit_split (s : Text) : unsplit (split s).1 (split s).2 = s := by
  induction s using split_induction with
  | nil => rfl
  | char c s none ih => rw [split_cons none, unsplit_consChar, ih]
  | directive d t read ih =>
    rw [split_directive read]
    simpa [unsplit] using ih

/-- What stands between directives has none. -/
theorem clear_split (s : Text) :
    (∀ piece ∈ (split s).1, Clear piece.before) ∧ Clear (split s).2 := by
  have empty : Clear [] := by
    rintro w ⟨blank, c, name, -, -, -, -, rfl⟩ found
    have none := List.infix_nil.mp found
    simp at none
  induction s using split_induction with
  | nil => exact ⟨fun _ mem => absurd mem List.not_mem_nil, empty⟩
  | char c s none ih =>
    have whole := unsplit_split s
    -- Where no directive starts in the source, none starts in what is left of it.
    have grown {u : Text} (more : Text) (cut : s = u ++ more) (clear : Clear u) :
        Clear (c :: u) := by
      refine clear_cons.mpr ⟨?_, clear⟩
      rw [Directive.read?_eq_none_iff] at none ⊢
      intro w bare start
      exact none w bare (start.trans ⟨more, by rw [cut, List.cons_append]⟩)
    rw [split_cons none]
    cases cut : split s with
    | mk pieces tail =>
      rw [cut] at ih whole
      cases pieces with
      | nil =>
        refine ⟨fun _ mem => absurd mem List.not_mem_nil, grown [] ?_ ih.2⟩
        simpa [unsplit] using whole.symm
      | cons piece pieces =>
        refine ⟨fun p mem => ?_, ih.2⟩
        rcases List.mem_cons.mp mem with rfl | mem
        · refine grown (piece.directive.text ++ unsplit pieces tail) ?_
            (ih.1 piece List.mem_cons_self)
          simpa [unsplit] using whole.symm
        · exact ih.1 p (List.mem_cons_of_mem _ mem)
  | directive d t read ih =>
    rw [split_directive read]
    refine ⟨fun p mem => ?_, ih.2⟩
    rcases List.mem_cons.mp mem with rfl | mem
    · exact empty
    · exact ih.1 p mem

theorem scan_eq_nil_iff_split {s : Text} : scan s = [] ↔ (split s).1 = [] := by
  rw [scan]
  cases (split s).1 with
  | nil => simp [spans]
  | cons piece pieces => simp [spans]

/-- Scanning finds nothing exactly if no directive is there. -/
theorem scan_eq_nil_iff {s : Text} : scan s = [] ↔ Clear s := by
  rw [scan_eq_nil_iff_split]
  constructor
  · intro none
    have whole := unsplit_split s
    have clear := (clear_split s).2
    rw [none] at whole
    rwa [show (split s).2 = s from whole] at clear
  · intro clear
    induction s using split_induction with
    | nil => rfl
    | char c s none ih =>
      rw [split_cons none]
      have rest := ih (clear_cons.mp clear).2
      cases cut : split s with
      | mk pieces tail =>
        obtain rfl : pieces = [] := by simpa [cut] using rest
        rfl
    | directive d t read _ =>
      obtain ⟨w, bare, start⟩ := Directive.read?_isSome_iff.mp (Option.isSome_of_eq_some read)
      exact absurd start.isInfix (clear w bare)

end Split
end ShaderPrep.Include
