import ShaderPrep.Proofs.Include.Directive
import ShaderPrep.Include.Resolve

/-! What including means: every directive is replaced by the included text, once that has its own
directives replaced. Sources are considered in which a line with a directive has nothing else. -/
namespace ShaderPrep.Include

def HasDirective (s : Text) (d : Directive) : Prop := ∃ line ∈ s.splitOn '\n', d.Alone line

theorem newLine_not_mem_keyword : '\n' ∉ keyword := by decide

section Directives
variable {s t line : Text} {d : Directive}

theorem hasDirective_line (h : '\n' ∉ line) : HasDirective line d ↔ d.Alone line := by
  rw [HasDirective, List.splitOn_eq_singleton h]
  simp

theorem hasDirective_append_cons :
    HasDirective (s ++ '\n' :: t) d ↔ HasDirective s d ∨ HasDirective t d := by
  simp only [HasDirective, List.splitOn_append_cons_self, List.mem_append, or_and_right,
    exists_or]

theorem HasDirective.of_line (h : d.Alone line) : HasDirective line d :=
  (hasDirective_line h.newLine_not_mem).mpr h

theorem not_hasDirective (h : Text.occurs keyword s = false) : ¬HasDirective s d := by
  induction s using Text.lines_induction with
  | last line one =>
    rw [hasDirective_line one]
    intro alone
    exact ne_true_of_eq_false h alone.occurs_keyword
  | cons line rest one ih =>
    have parts := Text.occurs_append_cons newLine_not_mem_keyword line rest
    rw [hasDirective_append_cons, hasDirective_line one]
    rintro (alone | has)
    · exact ne_true_of_eq_false h (parts.mpr (.inl alone.occurs_keyword))
    · refine ih (Bool.eq_false_iff.mpr fun found => ?_) has
      exact ne_true_of_eq_false h (parts.mpr (.inr found))

/-- Carriage returns at the end of a text change none of its directives. -/
theorem hasDirective_append {ending : Text} (end_ : LineEnd ending) :
    HasDirective (s ++ ending) d ↔ HasDirective s d := by
  have one : '\n' ∉ ending := end_.not_mem (by decide)
  induction s using Text.lines_induction with
  | last line single =>
    have whole : '\n' ∉ line ++ ending := by simp [single, one]
    rw [hasDirective_line whole, hasDirective_line single]
    exact ⟨fun h => h.of_append end_, fun h => h.append end_⟩
  | cons line rest _ ih =>
    rw [List.append_assoc, List.cons_append, hasDirective_append_cons, hasDirective_append_cons]
    exact or_congr_right ih

end Directives

/-- Every line that has the keyword is a directive and nothing else. -/
def Tidy (s : Text) : Prop :=
  ∀ line ∈ s.splitOn '\n', Text.occurs keyword line = true → ∃ d : Directive, d.Alone line

section Tidy
variable {s t line : Text}

theorem tidy_line (h : '\n' ∉ line) :
    Tidy line ↔ (Text.occurs keyword line = true → ∃ d : Directive, d.Alone line) := by
  rw [Tidy, List.splitOn_eq_singleton h]
  simp

theorem tidy_append_cons : Tidy (s ++ '\n' :: t) ↔ Tidy s ∧ Tidy t := by
  simp only [Tidy, List.splitOn_append_cons_self, List.mem_append, or_imp, forall_and]

theorem Tidy.append {ending : Text} (h : Tidy s) (end_ : LineEnd ending) : Tidy (s ++ ending) := by
  have one : '\n' ∉ ending := end_.not_mem (by decide)
  induction s using Text.lines_induction with
  | last line single =>
    have whole : '\n' ∉ line ++ ending := by simp [single, one]
    rw [tidy_line whole]
    intro found
    rw [tidy_line single] at h
    have apart : ∀ c ∈ ending, c ∉ keyword := by
      intro c mem
      obtain rfl := end_ c mem
      decide
    have inside := Text.occurs_of_occurs_append (by decide) apart found
    obtain ⟨d, alone⟩ := h inside
    exact ⟨d, alone.append end_⟩
  | cons line rest _ ih =>
    rw [tidy_append_cons] at h
    rw [List.append_assoc, List.cons_append, tidy_append_cons]
    exact ⟨h.1, ih h.2⟩

theorem hasDirective_lines :
    hasDirective (s ++ '\n' :: t) = true ↔ hasDirective s = true ∨ hasDirective t = true := by
  have parts (word : Text) (apart : '\n' ∉ word) := Text.occurs_append_cons apart s t
  simp only [hasDirective, Bool.or_eq_true, parts _ (by decide : '\n' ∉ "#include<".toList),
    parts _ (by decide : '\n' ∉ "#include <".toList)]
  exact or_or_or_comm ..

theorem Tidy.exists_alone_iff (one : '\n' ∉ line) (h : Tidy line) :
    hasDirective line = true ↔ ∃ d : Directive, d.Alone line := by
  simp only [hasDirective, Bool.or_eq_true]
  constructor
  · intro found
    refine (tidy_line one).mp h ?_
    rcases found with found | found
    · exact Text.occurs_of_occurs_longer keyword ['<'] found
    · exact Text.occurs_of_occurs_longer keyword [' ', '<'] found
  · rintro ⟨d, alone⟩
    exact alone.occurs_opening

/-- Looking for an opening of a directive finds out whether there is one. -/
theorem Tidy.hasDirective_iff (h : Tidy s) :
    hasDirective s = true ↔ ∃ d, HasDirective s d := by
  induction s using Text.lines_induction with
  | last line one =>
    simp only [hasDirective_line one]
    exact h.exists_alone_iff one
  | cons line rest one ih =>
    obtain ⟨first, others⟩ := tidy_append_cons.mp h
    simp only [hasDirective_lines, hasDirective_append_cons, exists_or, hasDirective_line one]
    exact or_congr (first.exists_alone_iff one) (ih others)

end Tidy

variable (settings : Settings) (store : Store)

/-- The text that takes the place of a directive whose include is stored. -/
def Expands (d : Directive) (t : Text) : Prop :=
  ∃ content, store.include? (d.key settings.supportsUniformBuffers) = some content ∧
    (d.expand settings content).value = .ok t

/-- Every directive replaced by what its include comes to; all else stays as it is. -/
inductive Inlines : Text → Text → Prop
  | plain : '\n' ∉ line → Text.occurs keyword line = false → Inlines line line
  | directive : d.Proper → LineEnd ending → Expands settings store d t → Inlines t new →
      Inlines (d.text ++ ending) (new ++ ending)
  | lines : '\n' ∉ line → Inlines line new → Inlines rest new' →
      Inlines (line ++ '\n' :: rest) (new ++ '\n' :: new')

/-- Includes nest at most that deep. -/
def Nests : Nat → Text → Prop
  | 0, s => ∀ d, ¬HasDirective s d
  | depth + 1, s => ∀ d t, HasDirective s d → Expands settings store d t → Nests depth t

/-- Texts that including a source leads to. -/
inductive Reachable (source : Text) : Text → Prop
  | source : Reachable source source
  | expand : Reachable source s → HasDirective s d → Expands settings store d t →
      Reachable source t

/-- Wherever including leads, directives have lines for themselves and can be replaced. -/
structure Tame (source : Text) : Prop where
  tidy : ∀ s, Reachable settings store source s → Tidy s
  expands : ∀ s d, Reachable settings store source s → HasDirective s d →
    ∃ t, Expands settings store d t

section Inlines
variable {settings store} {s t line rest r : Text} {d : Directive}

theorem Expands.unique {t' : Text} (h : Expands settings store d t)
    (h' : Expands settings store d t') : t = t' := by
  obtain ⟨content, stored, expanded⟩ := h
  obtain ⟨content', stored', expanded'⟩ := h'
  obtain rfl := Option.some.inj (stored.symm.trans stored')
  exact Except.ok.inj (expanded.symm.trans expanded')

theorem inlines_line (one : '\n' ∉ line) (h : Inlines settings store line r) :
    (Text.occurs keyword line = false ∧ r = line) ∨
      ∃ d ending t new, Directive.Proper d ∧ LineEnd ending ∧ Expands settings store d t ∧
        Inlines settings store t new ∧ line = d.text ++ ending ∧ r = new ++ ending := by
  cases h with
  | plain _ absent => exact .inl ⟨absent, rfl⟩
  | directive proper end_ expands inner =>
    exact .inr ⟨_, _, _, _, proper, end_, expands, inner, rfl, rfl⟩
  | lines _ _ _ => exact absurd (List.mem_append_right _ List.mem_cons_self) one

theorem inlines_first (one : '\n' ∉ line) (h : Inlines settings store (line ++ '\n' :: rest) r) :
    ∃ new new', Inlines settings store line new ∧ Inlines settings store rest new' ∧
      r = new ++ '\n' :: new' := by
  generalize whole : line ++ '\n' :: rest = s at h
  cases h with
  | plain single _ => exact absurd (whole ▸ List.mem_append_right _ List.mem_cons_self) single
  | directive proper end_ _ _ =>
    have single := Directive.Alone.newLine_not_mem ⟨proper, _, end_, rfl⟩
    exact absurd (whole ▸ List.mem_append_right _ List.mem_cons_self) single
  | lines single first others =>
    obtain ⟨rfl, rfl⟩ := Text.append_cons_inj one single whole
    exact ⟨_, _, first, others, rfl⟩

/-- The parts of a text around a line end are inlined on their own. -/
theorem inlines_append_cons (h : Inlines settings store (s ++ '\n' :: t) r) :
    ∃ new new', Inlines settings store s new ∧ Inlines settings store t new' ∧
      r = new ++ '\n' :: new' := by
  induction s using Text.lines_induction generalizing r with
  | last line one => exact inlines_first one h
  | cons line rest one ih =>
    rw [List.append_assoc, List.cons_append] at h
    obtain ⟨new, others, first, behind, rfl⟩ := inlines_first one h
    obtain ⟨new', last, inner, outer, rfl⟩ := ih behind
    exact ⟨new ++ '\n' :: new', last, .lines one first inner, outer, by simp⟩

/-- Carriage returns at the end of a text stay there. -/
theorem inlines_append {ending : Text} (end_ : LineEnd ending)
    (h : Inlines settings store (s ++ ending) r) :
    ∃ new, Inlines settings store s new ∧ r = new ++ ending := by
  have none : '\n' ∉ ending := end_.not_mem (by decide)
  induction s using Text.lines_induction generalizing r with
  | last line one =>
    have whole : '\n' ∉ line ++ ending := by simp [one, none]
    rcases inlines_line whole h with
      ⟨absent, rfl⟩ | ⟨d, ending', t, new, proper, end', expands, inner, same, rfl⟩
    · have absent : Text.occurs keyword line = false :=
        Bool.eq_false_iff.mpr fun found =>
          ne_true_of_eq_false absent (Text.occurs_append_left found ending)
      exact ⟨line, .plain one absent, rfl⟩
    · have alone : d.Alone (line ++ ending) := ⟨proper, ending', end', same⟩
      obtain ⟨-, ending₀, end₀, rfl⟩ := alone.of_append end_
      rw [List.append_assoc] at same
      obtain rfl := List.append_cancel_left same
      exact ⟨new ++ ending₀, .directive proper end₀ expands inner, by simp⟩
  | cons line rest one ih =>
    rw [List.append_assoc, List.cons_append] at h
    obtain ⟨new, others, first, behind, rfl⟩ := inlines_first one h
    obtain ⟨new', last, rfl⟩ := ih behind
    exact ⟨new ++ '\n' :: new', .lines one first last, by simp⟩

/-- There is at most one result of inlining. -/
theorem Inlines.unique {r' : Text} (h : Inlines settings store s r)
    (h' : Inlines settings store s r') : r = r' := by
  induction h generalizing r' with
  | plain one absent =>
    rcases inlines_line one h' with ⟨-, rfl⟩ | ⟨d, ending, t, new, proper, end_, -, -, rfl, -⟩
    · rfl
    · have alone : d.Alone (d.text ++ ending) := ⟨proper, ending, end_, rfl⟩
      exact absurd alone.occurs_keyword (ne_true_of_eq_false absent)
  | directive proper end_ expands _ ih =>
    have alone : Directive.Alone _ _ := ⟨proper, _, end_, rfl⟩
    rcases inlines_line alone.newLine_not_mem h' with
      ⟨absent, -⟩ | ⟨d', ending', t', new', proper', end', expands', inner, same, rfl⟩
    · exact absurd alone.occurs_keyword (ne_true_of_eq_false absent)
    · obtain rfl := alone.unique ⟨proper', ending', end', same⟩
      obtain rfl := expands.unique expands'
      obtain rfl := List.append_cancel_left same
      rw [ih inner]
  | lines one _ _ ih ih' =>
    obtain ⟨new, new', first, others, rfl⟩ := inlines_first one h'
    rw [ih first, ih' others]

/-- Nothing happens to a text without directives. -/
theorem Tidy.inlines_self (h : Tidy s) (none : ∀ d, ¬HasDirective s d) :
    Inlines settings store s s := by
  induction s using Text.lines_induction with
  | last line one =>
    refine .plain one (Bool.eq_false_iff.mpr fun found => ?_)
    obtain ⟨d, alone⟩ := (tidy_line one).mp h found
    exact none d (.of_line alone)
  | cons line rest one ih =>
    obtain ⟨first, others⟩ := tidy_append_cons.mp h
    have absent : Text.occurs keyword line = false := by
      refine Bool.eq_false_iff.mpr fun found => ?_
      obtain ⟨d, alone⟩ := (tidy_line one).mp first found
      exact none d (hasDirective_append_cons.mpr (.inl (.of_line alone)))
    refine .lines one (.plain one absent) (ih others fun d has => ?_)
    exact none d (hasDirective_append_cons.mpr (.inr has))

end Inlines

end ShaderPrep.Include
