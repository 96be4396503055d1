import ShaderPrep.Proofs.Guard.Parse

/-! Guards written out. What is written has no layout of its own and needs no precedence, since
every junction is in parentheses; it is parsed into the very guard, down to the order of the
operands. -/
namespace ShaderPrep.Guard

section Words

instance : DecidablePred IsName := fun s =>
  decidable_of_iff (s ≠ [] ∧ s.all isNameChar = true) (and_congr_right fun _ => List.all_eq_true)

/-- A word, perhaps behind a sign, as names and integers are. -/
def IsTerm (s : Text) : Prop := IsName (Numeral.sign s).2

instance : DecidablePred IsTerm := fun s => inferInstanceAs (Decidable (IsName (Numeral.sign s).2))

theorem Side.behind_sign {c : Char} {s : Text} (sign : c = '-' ∨ c = '+') (h : Side s) :
    Side (c :: s) := by
  have other (d : Char) (minus : d ≠ '-') (plus : d ≠ '+') : d ≠ c := by
    rcases sign with rfl | rfl
    · exact minus
    · exact plus
  have blank : Unicode.isBlank c = false := by rcases sign with rfl | rfl <;> decide
  have own : isPlain c = true := by rcases sign with rfl | rfl <;> decide
  refine ⟨?_, List.forall_mem_cons.mpr ⟨own, h.plain⟩, ?_, ?_⟩
  · have first : Text.Tight [c] := ⟨c, c, rfl, rfl, blank, blank⟩
    exact first.append h.tight []
  · exact List.not_mem_cons_of_ne_of_not_mem (other '[' (by decide) (by decide)) h.square
  · obtain ⟨equal, bang, less, greater⟩ := h.unrelated
    exact ⟨List.not_mem_cons_of_ne_of_not_mem (other '=' (by decide) (by decide)) equal,
      List.not_mem_cons_of_ne_of_not_mem (other '!' (by decide) (by decide)) bang,
      List.not_mem_cons_of_ne_of_not_mem (other '<' (by decide) (by decide)) less,
      List.not_mem_cons_of_ne_of_not_mem (other '>' (by decide) (by decide)) greater⟩

theorem IsTerm.side {s : Text} (h : IsTerm s) : Side s := by
  unfold IsTerm Numeral.sign at h
  split at h
  · exact h.isWord.side.behind_sign (.inl rfl)
  · exact h.isWord.side.behind_sign (.inr rfl)
  · exact h.isWord.side

end Words

/-- Symbols that are asked for are words, and so is what is compared, behind a sign at most. -/
def Worded : Guard → Prop
  | defined symbol _ => IsName symbol
  | compare symbol _ value => IsTerm symbol ∧ IsTerm value
  | and left right => left.Worded ∧ right.Worded
  | or left right => left.Worded ∧ right.Worded

instance decidableWorded : DecidablePred Worded
  | defined symbol _ => inferInstanceAs (Decidable (IsName symbol))
  | compare symbol _ value => inferInstanceAs (Decidable (IsTerm symbol ∧ IsTerm value))
  | and left right =>
    have := decidableWorded left
    have := decidableWorded right
    inferInstanceAs (Decidable (left.Worded ∧ right.Worded))
  | or left right =>
    have := decidableWorded left
    have := decidableWorded right
    inferInstanceAs (Decidable (left.Worded ∧ right.Worded))

/-- Two factors may stand on the sides of either junction. -/
theorem Shunts.join {s t a b : Text} {f g : Guard} {out out' : List Rpn} {js js' : List Junction}
    (first : Shunts .factor s f out js) (last : Shunts .factor t g out' js') (ha : Blanks a)
    (hb : Blanks b) (j : Junction) :
    ∃ out js, Shunts .condition (s ++ (a ++ (j.sign ++ (b ++ t)))) (ofJunction j f g) out js := by
  cases j with
  | and =>
    have loose : Shunts .term s f out js := first.mono (by decide)
    exact ⟨_, _, (loose.junction last ha hb rfl rfl).mono (by decide)⟩
  | or =>
    have loose : Shunts .condition s f out js := first.mono (by decide)
    have loose' : Shunts .term t g out' js' := last.mono (by decide)
    exact ⟨_, _, loose.junction loose' ha hb rfl rfl⟩

/-- With its calls protected the text `s` is `s'`, a factor that is read as the guard. -/
structure Factor (s s' : Text) (g : Guard) : Prop where
  tight : s'.Tight
  turned : ∀ t, Settled t → Call.protect (s ++ t) = s' ++ Call.protect t
  shunts : ∃ out js, Shunts .factor s' g out js

namespace Factor
variable {s s' t t' : Text} {f g : Guard}

theorem reduceCondition (h : Factor s s' g) :
    ∃ part : Part, part.toGuard = g ∧ reduceCondition s = ⟨[part], []⟩ := by
  obtain ⟨out, js, shunts⟩ := h.shunts
  have whole : Shunts .condition s' g out js := shunts.mono (by decide)
  exact (whole.reduces_ofCondition h.tight).reduceCondition h.turned

theorem parse_eq (h : Factor s s' g) : parse s = g := by
  obtain ⟨part, made, reduced⟩ := h.reduceCondition
  rw [parse, reduced, ← made]
  rfl

/-- Nothing of the text is skipped, so that there is nothing to warn of. -/
theorem read_eq (h : Factor s s' g) : read s = pure g := by
  obtain ⟨part, -, reduced⟩ := h.reduceCondition
  rw [read, h.parse_eq, reduced]
  rfl

theorem of_test (test : Test s' g)
    (turned : ∀ t, Settled t → Call.protect (s ++ t) = s' ++ Call.protect t) : Factor s s' g :=
  ⟨test.tight, turned, _, _, test.shunts⟩

theorem call {argument name : Text} (h : Argument argument name) :
    Factor ("defined(".toList ++ (argument ++ [')']))
      ("defined".toList ++ ('[' :: (argument ++ [']']))) (.defined name false) :=
  of_test (BracketCall.mk h).test fun t _ => h.protect (a := []) (List.forall_mem_nil _) t

theorem call_not {argument name a : Text} (h : Argument argument name) (ha : a.IsBlank) :
    Factor ('!' :: (a ++ ("defined(".toList ++ (argument ++ [')']))))
      ('!' :: (a ++ ("defined".toList ++ ('[' :: (argument ++ [']']))))) (.defined name true) := by
  refine of_test ((BracketCall.mk h).test_not ha) fun t settled => ?_
  have first : 'd' ∉ '!' :: a := by simp [ha.not_mem (c := 'd') (by decide)]
  have behind := protect_skip first ("defined(".toList ++ (argument ++ [')']) ++ t)
  rw [(call h).turned t settled] at behind
  simpa using behind

theorem defined {name : Text} (h : Argument name name) (negated : Bool) :
    ∃ s', Factor (Guard.defined name negated).toText s' (.defined name negated) := by
  cases negated with
  | false =>
    have read := call h
    exact ⟨_, by simpa [toText] using read⟩
  | true =>
    have read := call_not h (a := []) (List.forall_mem_nil _)
    exact ⟨_, by simpa [toText] using read⟩

theorem compare {u v : Text} (hu : Side u) (hv : Side v) (comparison : Comparison) :
    ∃ s', Factor (Guard.compare u comparison v).toText s' (.compare u comparison v) := by
  have test := test_compare hu hv blanks_space.isBlank blanks_space.isBlank comparison
  have written : (Guard.compare u comparison v).toText =
      u ++ ([' '] ++ (comparison.sign ++ ([' '] ++ v))) := by simp [toText]
  rw [written]
  exact ⟨_, of_test test fun t settled => Call.protect_plain test.plain settled⟩

theorem junction {a b : Text} (first : Factor s s' f) (last : Factor t t' g) (ha : Blanks a)
    (hb : Blanks b) (j : Junction) :
    Factor ('(' :: (s ++ (a ++ (j.sign ++ (b ++ t))) ++ [')']))
      ('(' :: (s' ++ (a ++ (j.sign ++ (b ++ t'))) ++ [')'])) (ofJunction j f g) := by
  obtain ⟨out, js, shunts⟩ := first.shunts
  obtain ⟨out', js', shunts'⟩ := last.shunts
  have inside (r : Text) (settled : Settled r) :
      Call.protect (s ++ (a ++ (j.sign ++ (b ++ t))) ++ r) =
        s' ++ (a ++ (j.sign ++ (b ++ t'))) ++ Call.protect r := by
    cases j with
    | and => exact protect_junction (b := b) (.inl rfl) ha hb first.turned last.turned settled
    | or => exact protect_junction (b := b) (.inr rfl) ha hb first.turned last.turned settled
  obtain ⟨_, _, joined⟩ := shunts.join shunts' ha hb j
  exact ⟨tight_group _, fun r _ => protect_group blanks_nil blanks_nil inside r, _, _,
    joined.group blanks_nil blanks_nil⟩

end Factor

/-- Nothing in the symbols and values of the guard can be taken for something else once it is
written out. -/
def Legible : Guard → Prop
  | defined symbol _ => Argument symbol symbol
  | compare symbol _ value => Side symbol ∧ Side value
  | and left right => left.Legible ∧ right.Legible
  | or left right => left.Legible ∧ right.Legible

namespace Legible
variable {g : Guard}

theorem factor (h : g.Legible) : ∃ s', Factor g.toText s' g := by
  induction g with
  | defined symbol negated => exact Factor.defined h negated
  | compare symbol comparison value => exact Factor.compare h.1 h.2 comparison
  | and left right ihl ihr =>
    obtain ⟨s', first⟩ := ihl h.1
    obtain ⟨t', last⟩ := ihr h.2
    have both : Factor _ _ (.and left right) := first.junction last blanks_space blanks_space .and
    exact ⟨_, by simpa [toText, Junction.sign] using both⟩
  | or left right ihl ihr =>
    obtain ⟨s', first⟩ := ihl h.1
    obtain ⟨t', last⟩ := ihr h.2
    have both : Factor _ _ (.or left right) := first.junction last blanks_space blanks_space .or
    exact ⟨_, by simpa [toText, Junction.sign] using both⟩

theorem parse_toText (h : g.Legible) : parse g.toText = g := by
  obtain ⟨s', factor⟩ := h.factor
  exact factor.parse_eq

end Legible

theorem Worded.legible {g : Guard} (h : g.Worded) : g.Legible := by
  induction g with
  | defined symbol negated => exact (IsName.isWord h).argument_self
  | compare symbol comparison value => exact ⟨h.1.side, h.2.side⟩
  | and left right ihl ihr => exact ⟨ihl h.1, ihr h.2⟩
  | or left right ihl ihr => exact ⟨ihl h.1, ihr h.2⟩

theorem Worded.tight {g : Guard} (h : g.Worded) : g.toText.Tight := by
  cases g with
  | defined symbol negated =>
    have last (s : Text) : (s ++ [')']).getLast? = some ')' := List.getLast?_concat
    cases negated with
    | false => exact ⟨'d', ')', rfl, last _, by decide, by decide⟩
    | true => exact ⟨'!', ')', rfl, last _, by decide, by decide⟩
  | compare symbol comparison value =>
    have tight := h.1.side.tight.append h.2.side.tight ([' '] ++ comparison.sign ++ [' '])
    simpa [toText] using tight
  | and left right =>
    have tight := tight_group (left.toText ++ (" && ".toList ++ right.toText))
    simpa [toText] using tight
  | or left right =>
    have tight := tight_group (left.toText ++ (" || ".toList ++ right.toText))
    simpa [toText] using tight

/-- What is written out for a guard is parsed into it. -/
theorem Worded.parse_toText {g : Guard} (h : g.Worded) : parse g.toText = g :=
  h.legible.parse_toText

section Characters

/-- A character that guards over words are written with. -/
def isWritten (c : Char) : Bool := isNameChar c || " ()!&|=<>-+".toList.contains c

theorem IsName.written {s : Text} (h : IsName s) : ∀ c ∈ s, isWritten c = true := by
  intro c mem
  simp [isWritten, h.2 c mem]

theorem IsTerm.written {s : Text} (h : IsTerm s) : ∀ c ∈ s, isWritten c = true := by
  have behind {c : Char} {t : Text} (name : IsName t) (own : isWritten c = true) :
      ∀ d ∈ c :: t, isWritten d = true := List.forall_mem_cons.mpr ⟨own, name.written⟩
  unfold IsTerm Numeral.sign at h
  split at h
  · exact behind h (by decide)
  · exact behind h (by decide)
  · exact h.written

theorem Worded.written {g : Guard} (h : g.Worded) : ∀ c ∈ g.toText, isWritten c = true := by
  rw [← List.all_eq_true]
  induction g with
  | defined symbol negated =>
    have name := List.all_eq_true.mpr (IsName.written h)
    cases negated <;> simp only [toText, List.all_append, name] <;> rfl
  | compare symbol comparison value =>
    have left := List.all_eq_true.mpr (IsTerm.written h.1)
    have right := List.all_eq_true.mpr (IsTerm.written h.2)
    simp only [toText, List.all_append, left, right]
    cases comparison <;> rfl
  | and left right ihl ihr | or left right ihl ihr =>
    simp only [toText, List.all_cons, List.all_append, ihl h.1, ihr h.2]
    rfl

end Characters
end ShaderPrep.Guard
