import ShaderPrep.Proofs.Include.Inline
import ShaderPrep.Proofs.Include.Split

/-! One pass over a source is one step of inlining: it replaces the directives that are there, each
on its own, and says whether the text that it leaves has directives again. A pass that is given up
for a fetch replaces some of them. Inlining what is left comes to the same either way. -/
namespace ShaderPrep.Include

/-- Every directive replaced by the text that takes its place, which may have directives itself. -/
inductive Once (settings : Settings) (store : Store) : Text → Text → Prop
  | plain : '\n' ∉ line → Text.occurs keyword line = false → Once settings store line line
  | directive : d.Proper → LineEnd ending → Expands settings store d t → Tidy t →
      Once settings store (d.text ++ ending) (t ++ ending)
  | lines : '\n' ∉ line → Once settings store line new → Once settings store rest new' →
      Once settings store (line ++ '\n' :: rest) (new ++ '\n' :: new')

/-- Some of the directives replaced, the others left for later. -/
inductive Partly (settings : Settings) (store : Store) : Text → Text → Prop
  | kept : '\n' ∉ line → Tidy line → Partly settings store line line
  | directive : d.Proper → LineEnd ending → Expands settings store d t → Tidy t →
      Partly settings store (d.text ++ ending) (t ++ ending)
  | lines : '\n' ∉ line → Partly settings store line new → Partly settings store rest new' →
      Partly settings store (line ++ '\n' :: rest) (new ++ '\n' :: new')

section Partly
variable {settings : Settings} {store : Store} {s s' r : Text} {d : Directive}

theorem Tidy.partly (h : Tidy s) : Partly settings store s s := by
  induction s using Text.lines_induction with
  | last line one => exact .kept one h
  | cons line rest one ih =>
    obtain ⟨first, others⟩ := tidy_append_cons.mp h
    exact .lines one (.kept one first) (ih others)

theorem Once.partly (h : Once settings store s s') : Partly settings store s s' := by
  induction h with
  | plain one absent =>
    refine .kept one ((tidy_line one).mpr fun found => ?_)
    exact absurd found (ne_true_of_eq_false absent)
  | directive proper end_ expands tidy => exact .directive proper end_ expands tidy
  | lines one _ _ first others => exact .lines one first others

theorem Partly.mono {after : Store} (h : Partly settings store s s')
    (within : ∀ d t, Expands settings store d t → Expands settings after d t) :
    Partly settings after s s' := by
  induction h with
  | kept one tidy => exact .kept one tidy
  | directive proper end_ expands tidy => exact .directive proper end_ (within _ _ expands) tidy
  | lines one _ _ first others => exact .lines one first others

theorem Partly.tidy (h : Partly settings store s s') : Tidy s' := by
  induction h with
  | kept _ tidy => exact tidy
  | directive _ end_ _ tidy => exact tidy.append end_
  | lines _ _ _ first others => exact tidy_append_cons.mpr ⟨first, others⟩

theorem Partly.hasDirective (h : Partly settings store s s') (has : HasDirective s' d) :
    HasDirective s d ∨
      ∃ d₀ t, HasDirective s d₀ ∧ Expands settings store d₀ t ∧ HasDirective t d := by
  induction h with
  | kept _ _ => exact .inl has
  | directive proper end_ expands _ =>
    refine .inr ⟨_, _, .of_line ⟨proper, _, end_, rfl⟩, expands, ?_⟩
    exact (hasDirective_append end_).mp has
  | lines one _ _ first others =>
    simp only [hasDirective_append_cons] at has ⊢
    rcases has with has | has
    · rcases first has with here | ⟨d₀, t, here, more⟩
      · exact .inl (.inl here)
      · exact .inr ⟨d₀, t, .inl here, more⟩
    · rcases others has with here | ⟨d₀, t, here, more⟩
      · exact .inl (.inr here)
      · exact .inr ⟨d₀, t, .inr here, more⟩

theorem Partly.reachable (h : Partly settings store s s') {u : Text}
    (reachable : Reachable settings store s' u) : u = s' ∨ Reachable settings store s u := by
  induction reachable with
  | source => exact .inl rfl
  | expand _ has expands ih =>
    rcases ih with rfl | reachable
    · rcases h.hasDirective has with here | ⟨d₀, t, outer, expands₀, inner⟩
      · exact .inr (.expand .source here expands)
      · exact .inr (.expand (.expand .source outer expands₀) inner expands)
    · exact .inr (.expand reachable has expands)

/-- Inlining after replacing some of the directives comes to the same as inlining. -/
theorem Partly.inlines (h : Partly settings store s s') (inlined : Inlines settings store s' r) :
    Inlines settings store s r := by
  induction h generalizing r with
  | kept _ _ => exact inlined
  | directive proper end_ expands _ =>
    obtain ⟨new, inner, rfl⟩ := inlines_append end_ inlined
    exact .directive proper end_ expands inner
  | lines one _ _ first others =>
    obtain ⟨new, new', inner, inner', rfl⟩ := inlines_append_cons inlined
    exact .lines one (first inner) (others inner')

end Partly

section Once
variable {settings : Settings} {store : Store} {s s' r : Text} {d : Directive}

/-- The directives that a step leaves are those of the texts put in. -/
theorem Once.hasDirective_iff (h : Once settings store s s') :
    HasDirective s' d ↔
      ∃ d₀ t, HasDirective s d₀ ∧ Expands settings store d₀ t ∧ HasDirective t d := by
  induction h with
  | plain one absent =>
    constructor
    · exact fun has => absurd has (not_hasDirective absent)
    · rintro ⟨d₀, t, has, -, -⟩
      exact absurd has (not_hasDirective absent)
  | @directive d₁ ending t proper end_ expands tidy =>
    have alone : Directive.Alone _ _ := ⟨proper, _, end_, rfl⟩
    rw [hasDirective_append end_]
    constructor
    · exact fun has => ⟨_, _, .of_line alone, expands, has⟩
    · rintro ⟨d₀, t, has, expands', inner⟩
      obtain rfl := alone.unique ((hasDirective_line alone.newLine_not_mem).mp has)
      rwa [expands.unique expands']
  | lines one _ _ first others =>
    rw [hasDirective_append_cons, first, others]
    constructor
    · rintro (⟨d₀, t, has, rest⟩ | ⟨d₀, t, has, rest⟩)
      · exact ⟨d₀, t, hasDirective_append_cons.mpr (.inl has), rest⟩
      · exact ⟨d₀, t, hasDirective_append_cons.mpr (.inr has), rest⟩
    · rintro ⟨d₀, t, has, rest⟩
      rcases hasDirective_append_cons.mp has with has | has
      · exact .inl ⟨d₀, t, has, rest⟩
      · exact .inr ⟨d₀, t, has, rest⟩

/-- Each step takes one level of nesting off. -/
theorem Once.nests_iff (h : Once settings store s s') (depth : Nat) :
    Nests settings store (depth + 1) s ↔ Nests settings store depth s' := by
  cases depth with
  | zero =>
    constructor
    · intro nests d has
      obtain ⟨d₀, t, outer, expands, inner⟩ := h.hasDirective_iff.mp has
      exact nests d₀ t outer expands d inner
    · intro none d₀ t outer expands d inner
      exact none d (h.hasDirective_iff.mpr ⟨d₀, t, outer, expands, inner⟩)
  | succ depth =>
    constructor
    · intro nests d u has expands
      obtain ⟨d₀, t, outer, expands₀, inner⟩ := h.hasDirective_iff.mp has
      exact nests d₀ t outer expands₀ d u inner expands
    · intro nests d₀ t outer expands₀ d u inner expands
      exact nests d u (h.hasDirective_iff.mpr ⟨d₀, t, outer, expands₀, inner⟩) expands

theorem exists_once_line {line : Text} (one : '\n' ∉ line) (tidy : Tidy line)
    (expands : ∀ d, HasDirective line d → ∃ t, Expands settings store d t ∧ Tidy t) :
    ∃ new, Once settings store line new := by
  cases found : Text.occurs keyword line with
  | false => exact ⟨line, .plain one found⟩
  | true =>
    obtain ⟨d, alone⟩ := (tidy_line one).mp tidy found
    obtain ⟨t, expanded, inner⟩ := expands d (.of_line alone)
    obtain ⟨proper, ending, end_, rfl⟩ := alone
    exact ⟨_, .directive proper end_ expanded inner⟩

theorem exists_once (tidy : Tidy s)
    (expands : ∀ d, HasDirective s d → ∃ t, Expands settings store d t ∧ Tidy t) :
    ∃ s', Once settings store s s' := by
  induction s using Text.lines_induction with
  | last line one => exact exists_once_line one tidy expands
  | cons line rest one ih =>
    obtain ⟨first, others⟩ := tidy_append_cons.mp tidy
    obtain ⟨new, here⟩ := exists_once_line one first fun d has =>
      expands d (hasDirective_append_cons.mpr (.inl has))
    obtain ⟨new', behind⟩ := ih others fun d has =>
      expands d (hasDirective_append_cons.mpr (.inr has))
    exact ⟨_, .lines one here behind⟩

theorem Tame.exists_once (tame : Tame settings store s) : ∃ s', Once settings store s s' := by
  refine Include.exists_once (tame.tidy s .source) fun d has => ?_
  obtain ⟨t, expands⟩ := tame.expands s d .source has
  exact ⟨t, expands, tame.tidy t (.expand .source has expands)⟩

theorem Once.tame (h : Once settings store s s') (tame : Tame settings store s) :
    Tame settings store s' where
  tidy u reachable := by
    rcases h.partly.reachable reachable with rfl | reachable
    · exact h.partly.tidy
    · exact tame.tidy u reachable
  expands u d reachable has := by
    rcases h.partly.reachable reachable with rfl | reachable
    · obtain ⟨d₀, t, outer, expands₀, inner⟩ := h.hasDirective_iff.mp has
      exact tame.expands t d (.expand .source outer expands₀) inner
    · exact tame.expands u d reachable has

end Once

theorem Pass.after_after (p : Pass) (u v : Text) (a b : Bool) :
    (p.after u a).after v b = p.after (v ++ u) (b || a) := by
  cases p with
  | complete text => cases a <;> cases b <;> simp [after]
  | nested text => simp [after]
  | fetched text key content => simp [after]
  | failed failure => rfl

theorem Pass.after_nil (p : Pass) : p.after [] false = p := by
  cases p <;> rfl

section Scan
variable (settings : Settings) (engine : Option Engine) (store : Store)

theorem value_runPass_consChar (c : Char) (cut : List Piece × Text) :
    (runPass settings engine store (consChar c cut).1 (consChar c cut).2).value =
      (runPass settings engine store cut.1 cut.2).value.after [c] false := by
  obtain ⟨pieces, tail⟩ := cut
  cases pieces with
  | nil => rfl
  | cons piece pieces =>
    obtain ⟨before, d⟩ := piece
    simp only [consChar, runPass]
    cases store.include? (d.key settings.supportsUniformBuffers) with
    | none =>
      simp only [Traced.value_bind]
      cases (fetch settings engine (d.key settings.supportsUniformBuffers)).value <;> rfl
    | some content =>
      simp only [Traced.value_bind]
      cases (d.expand settings content).value with
      | error failure => rfl
      | ok text =>
        simp only [Traced.value_bind, Traced.value_pure, Pass.after_after]
        rfl

theorem value_pass_cons {c : Char} {s : Text} (h : Directive.read? (c :: s) = none) :
    (pass settings engine store (c :: s)).value =
      (pass settings engine store s).value.after [c] false := by
  simp only [pass, split_cons h]
  exact value_runPass_consChar settings engine store c (split s)

/-- Text in which no directive starts stays. -/
theorem value_pass_append {u t : Text}
    (h : ∀ v, v ≠ [] → v <:+ u → Directive.read? (v ++ t) = none) :
    (pass settings engine store (u ++ t)).value =
      (pass settings engine store t).value.after u false := by
  induction u with
  | nil => rw [Pass.after_nil, List.nil_append]
  | cons c u ih =>
    have here := h (c :: u) (by simp) (List.suffix_refl _)
    have rest := ih fun v filled suffix => h v filled (suffix.trans (List.suffix_cons c u))
    calc (pass settings engine store (c :: (u ++ t))).value
        = (pass settings engine store (u ++ t)).value.after [c] false :=
          value_pass_cons settings engine store here
      _ = (pass settings engine store t).value.after (c :: u) false := by
          rw [rest, Pass.after_after]
          rfl

variable {settings store}

theorem value_pass_directive {d : Directive} {text t : Text}
    (h : Directive.read? (d.text ++ t) = some d) (expands : Expands settings store d text) :
    (pass settings engine store (d.text ++ t)).value =
      (pass settings engine store t).value.after text (hasDirective text) := by
  obtain ⟨content, stored, expanded⟩ := expands
  rw [pass, split_directive h]
  simp only [runPass, stored, Traced.value_bind, expanded]
  rfl

/-- A pass takes the step, and asks for another pass if there are directives left. -/
theorem Once.value_pass {s s' : Text} (h : Once settings store s s') :
    ∃ again : Bool, (again = true ↔ ∃ d, HasDirective s' d) ∧ ∀ t, NewLine t →
      (pass settings engine store (s ++ t)).value =
        (pass settings engine store t).value.after s' again := by
  induction h with
  | @plain line one absent =>
    refine ⟨false, ⟨fun no => absurd no Bool.false_ne_true, ?_⟩, fun t new => ?_⟩
    · rintro ⟨d, has⟩
      exact absurd has (not_hasDirective absent)
    · exact value_pass_append settings engine store fun v _ suffix =>
        Directive.read?_eq_none_of_suffix absent new suffix
  | @directive d ending text proper end_ expands tidy =>
    refine ⟨hasDirective text, ?_, fun t new => ?_⟩
    · rw [tidy.hasDirective_iff]
      exact exists_congr fun _ => (hasDirective_append end_).symm
    · have kept := value_pass_append settings engine store (t := t) fun v filled suffix =>
        end_.read?_eq_none filled suffix t
      rw [List.append_assoc,
        value_pass_directive engine (proper.read?_append end_ new) expands,
        kept, Pass.after_after, Bool.or_false]
  | @lines line new rest new' one _ _ first others =>
    obtain ⟨again, left, value⟩ := first
    obtain ⟨again', left', value'⟩ := others
    refine ⟨again || again', ?_, fun t last => ?_⟩
    · simp only [Bool.or_eq_true, left, left', hasDirective_append_cons, exists_or]
    -- The break starts no directive, so that what is behind it is read by itself.
    · have break_ := value_pass_cons settings engine store
        (Directive.read?_eq_none_of_head (by decide : '#' ≠ '\n') (rest ++ t))
      rw [List.append_assoc, List.cons_append, value _ (newLine_cons _), break_, value' t last,
        Pass.after_after, Pass.after_after, Bool.or_false, List.append_assoc]
      rfl

end Scan

end ShaderPrep.Include
