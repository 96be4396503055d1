import ShaderPrep.Proofs.Guard.Calls

/-! The single tests of a condition. An operand gets its parentheses back, and then a call, a
comparison or the presence of a symbol is told apart by the marks that occur in it. -/
namespace ShaderPrep.Guard

namespace Call

theorem widest?_skip {u : Text} (h : 'd' ∉ u) (s : Text) : widest? (u ++ s) = widest? s := by
  induction u with
  | nil => rfl
  | cons c u ih =>
    have word : Text.after? "defined(".toList (c :: (u ++ s)) = none :=
      Text.after?_eq_none_of_head fun e => h (e ▸ List.mem_cons_self)
    rw [List.cons_append, widest?, word]
    exact ih fun mem => h (List.mem_cons_of_mem c mem)

theorem widest?_eq_none {s : Text} (h : '(' ∉ s) : widest? s = none := by
  induction s with
  | nil => rfl
  | cons c s ih =>
    have word : Text.after? "defined(".toList (c :: s) = none := by
      cases found : Text.after? "defined(".toList (c :: s) with
      | none => rfl
      | some rest =>
        rw [Text.after?_eq_some.mp found] at h
        exact absurd (List.mem_append_left _ (by decide)) h
    rw [widest?, word]
    exact ih fun mem => h (List.mem_cons_of_mem c mem)

theorem widest?_call {argument : Text} (filled : argument ≠ []) (line : '\n' ∉ argument) :
    widest? ("defined(".toList ++ (argument ++ [')'])) = some argument := by
  have inside : ∀ c ∈ argument, (c != '\n') = true := by
    intro c mem
    rw [bne_iff_ne]
    rintro rfl
    exact line mem
  have whole : (argument ++ [')']).takeWhile (· != '\n') = argument ++ [')'] := by
    rw [List.takeWhile_append_of_pos inside]
    rfl
  have last : Text.cutLast? [')'] (argument ++ [')']) = some (argument, []) :=
    Text.cutLast?_append List.not_mem_nil argument
  have word : Text.after? "defined(".toList ('d' :: ("efined(".toList ++ (argument ++ [')']))) =
      some (argument ++ [')']) := Text.after?_append "defined(".toList (argument ++ [')'])
  change widest? ('d' :: ("efined(".toList ++ (argument ++ [')']))) = _
  simp only [widest?, word, Option.bind_eq_bind, Option.bind_some, whole, last, if_neg filled]

theorem restore_skip {u : Text} (h : 'd' ∉ u) (t : Text) :
    restore (u ++ t) = u ++ restore t :=
  substitute_skip (by decide) h t

theorem restore_eq_self {s : Text} (h : '[' ∉ s) : restore s = s := by
  refine Text.substitute_eq_self fun t suffix _ => ?_
  have none : match? '[' ']' t = none := by
    refine Option.eq_none_iff_forall_ne_some.mpr fun found matched => ?_
    obtain ⟨a, r, rfl, -⟩ := (match?_eq_some (by decide)).mp matched
    exact h (suffix.subset (by simp))
  simp [rule, none]

end Call

section Comparisons

/-- No character of a comparison occurs. -/
def Unrelated (s : Text) : Prop := '=' ∉ s ∧ '!' ∉ s ∧ '<' ∉ s ∧ '>' ∉ s

theorem Unrelated.append {s t : Text} (hs : Unrelated s) (ht : Unrelated t) :
    Unrelated (s ++ t) := by
  simp [Unrelated, List.mem_append, hs.1, hs.2.1, hs.2.2.1, hs.2.2.2, ht.1, ht.2.1, ht.2.2.1,
    ht.2.2.2]

theorem unrelated_of_isBlank {s : Text} (h : s.IsBlank) : Unrelated s :=
  ⟨h.not_mem (by decide), h.not_mem (by decide), h.not_mem (by decide), h.not_mem (by decide)⟩

theorem IsLiteral.unrelated {s : Text} (h : IsLiteral s) : Unrelated s :=
  ⟨h.not_mem (by decide) (by decide), h.not_mem (by decide) (by decide),
    h.not_mem (by decide) (by decide), h.not_mem (by decide) (by decide)⟩

theorem unrelated_iff {s : Text} : Unrelated s ↔ ∀ c ∈ ['=', '!', '<', '>'], c ∉ s := by
  simp [Unrelated]

theorem Comparison.exists_sign (comparison : Comparison) :
    ∃ c word, comparison.sign = c :: word ∧ c ∈ ['=', '!', '<', '>'] := by
  cases comparison <;> exact ⟨_, _, rfl, by decide⟩

/-- A comparison that is searched for earlier than another has more of some character. -/
theorem Comparison.exists_earlier (comparison : Comparison) :
    ∃ earlier later, Comparison.all = earlier ++ comparison :: later ∧
      ∀ other ∈ earlier, ∃ c ∈ ['=', '!', '<', '>'],
        comparison.sign.count c < other.sign.count c := by
  refine ⟨Comparison.all.takeWhile (· ≠ comparison),
    (Comparison.all.dropWhile (· ≠ comparison)).tail, ?_, ?_⟩
  · cases comparison <;> decide
  · cases comparison <;> simp [Comparison.all, Comparison.sign]

/-- Comparisons that do not occur are passed over. -/
theorem comparison?_append_of_none {s : Text} {earlier : List Comparison}
    (absent : ∀ comparison ∈ earlier, Text.cut? comparison.sign s = none)
    (later : List Comparison) : comparison? s (earlier ++ later) = comparison? s later := by
  induction earlier with
  | nil => rfl
  | cons comparison earlier ih =>
    obtain ⟨here, absent⟩ := List.forall_mem_cons.mp absent
    rw [List.cons_append, comparison?, here]
    exact ih absent

theorem comparison?_eq_none {s : Text} (h : Unrelated s) : comparison? s Comparison.all = none := by
  have absent : ∀ comparison ∈ Comparison.all, Text.cut? comparison.sign s = none := by
    intro comparison _
    obtain ⟨c, word, sign, mark⟩ := Comparison.exists_sign comparison
    apply Text.cut?_eq_none_of_count c
    rw [List.count_eq_zero.mpr (unrelated_iff.mp h c mark), sign, List.count_cons_self]
    exact Nat.succ_pos _
  have passed := comparison?_append_of_none absent []
  rwa [List.append_nil] at passed

/-- A comparison is found between sides that have none of its characters: one that is searched
for earlier would need more of them than there are. -/
theorem comparison?_append {u v : Text} (hu : Unrelated u) (hv : Unrelated v)
    (comparison : Comparison) :
    comparison? (u ++ (comparison.sign ++ v)) Comparison.all =
      some (.compare u.trim comparison v.trim) := by
  have count {c : Char} (mark : c ∈ ['=', '!', '<', '>']) :
      (u ++ (comparison.sign ++ v)).count c = comparison.sign.count c := by
    simp [List.count_eq_zero.mpr (unrelated_iff.mp hu c mark),
      List.count_eq_zero.mpr (unrelated_iff.mp hv c mark)]
  have found : Text.cut? comparison.sign (u ++ (comparison.sign ++ v)) = some (u, v) := by
    obtain ⟨c, word, sign, mark⟩ := Comparison.exists_sign comparison
    rw [sign]
    exact Text.cut?_append (unrelated_iff.mp hu c mark) word v
  obtain ⟨earlier, later, all, more⟩ := Comparison.exists_earlier comparison
  rw [all, comparison?_append_of_none, comparison?, found]
  intro other mem
  obtain ⟨c, mark, less⟩ := more other mem
  apply Text.cut?_eq_none_of_count c
  rwa [count mark]

end Comparisons

/-- A text without structure that is read as a single guard. -/
structure Test (s : Text) (g : Guard) : Prop where
  tight : s.Tight
  plain : ∀ c ∈ s, isPlain c = true
  guard_eq : ofOperand (Call.restore s) = g

section Calls
variable {s argument name : Text}

theorem BracketCall.tight (h : BracketCall s name) : s.Tight := by
  obtain @⟨argument, name, -⟩ := h
  have last : "defined".toList ++ ('[' :: (argument ++ [']'])) =
      "defined[".toList ++ argument ++ [']'] := by simp
  exact ⟨'d', ']', rfl, by rw [last, List.getLast?_concat], by decide, by decide⟩

theorem BracketCall.plain (h : BracketCall s name) : ∀ c ∈ s, isPlain c = true := by
  obtain ⟨argument⟩ := h
  refine List.forall_mem_append.mpr ⟨plain_word, List.forall_mem_cons.mpr ⟨by decide, ?_⟩⟩
  exact List.forall_mem_append.mpr ⟨argument.plain, List.forall_mem_singleton.mpr (by decide)⟩

/-- A call gets its parentheses back whatever follows it. -/
theorem Argument.restore (h : Argument argument name) (t : Text) :
    Call.restore ("defined".toList ++ ('[' :: (argument ++ [']'])) ++ t) =
      "defined(".toList ++ (argument ++ [')']) ++ Call.restore t :=
  Call.substitute_call (a := []) (List.forall_mem_nil _) h.filled h.line h.square (by decide) t

theorem Argument.widest?_call (h : Argument argument name) :
    Call.widest? ("defined(".toList ++ (argument ++ [')'])) = some argument :=
  Call.widest?_call h.filled h.line

theorem Argument.restore_eq (h : Argument argument name) :
    Call.restore ("defined".toList ++ ('[' :: (argument ++ [']']))) =
      "defined(".toList ++ (argument ++ [')']) := by
  have restored := h.restore []
  rwa [show Call.restore [] = [] from rfl, List.append_nil, List.append_nil] at restored

theorem BracketCall.test (h : BracketCall s name) : Test s (.defined name false) := by
  refine ⟨h.tight, h.plain, ?_⟩
  obtain ⟨argument⟩ := h
  rw [argument.restore_eq, ofOperand, argument.widest?_call]
  simp [argument.trim]

theorem BracketCall.test_not {a : Text} (h : BracketCall s name) (ha : a.IsBlank) :
    Test ('!' :: (a ++ s)) (.defined name true) := by
  have first : 'd' ∉ '!' :: a := by simp [ha.not_mem (c := 'd') (by decide)]
  refine ⟨?_, ?_, ?_⟩
  · have bang : Text.Tight ['!'] := ⟨'!', '!', rfl, rfl, by decide, by decide⟩
    exact bang.append h.tight a
  · refine List.forall_mem_cons.mpr ⟨by decide, ?_⟩
    exact List.forall_mem_append.mpr ⟨plain_of_isBlank ha, h.plain⟩
  · obtain ⟨argument⟩ := h
    rw [← List.cons_append, Call.restore_skip first, argument.restore_eq, ofOperand,
      Call.widest?_skip first, argument.widest?_call]
    simp [argument.trim]

end Calls

/-- A text that may stand on a side of a comparison: nothing in it is part of the comparison, of a
call or of the structure of a condition. -/
structure Side (s : Text) : Prop where
  tight : s.Tight
  plain : ∀ c ∈ s, isPlain c = true
  square : '[' ∉ s
  unrelated : Unrelated s

theorem IsWord.side {s : Text} (h : IsWord s) : Side s where
  tight := h.tight
  plain := h.plain
  square := h.not_mem (by decide)
  unrelated := ⟨h.not_mem (by decide), h.not_mem (by decide), h.not_mem (by decide),
    h.not_mem (by decide)⟩

theorem IsLiteral.side {s : Text} (h : IsLiteral s) : Side s :=
  ⟨h.tight, h.plain, h.not_mem (by decide) (by decide), h.unrelated⟩

/-- Alone, such a text is a symbol whose presence is tested. -/
theorem Side.test {s : Text} (h : Side s) : Test s (.defined s false) := by
  have round : '(' ∉ s := fun mem => absurd (h.plain '(' mem) (by decide)
  refine ⟨h.tight, h.plain, ?_⟩
  rw [Call.restore_eq_self h.square, ofOperand, Call.widest?_eq_none round,
    comparison?_eq_none h.unrelated]
  rfl

theorem square_compare {u v a b : Text} (hu : Side u) (hv : Side v) (ha : a.IsBlank)
    (hb : b.IsBlank) (comparison : Comparison) :
    '[' ∉ u ++ (a ++ (comparison.sign ++ (b ++ v))) := by
  intro mem
  simp only [List.mem_append] at mem
  rcases mem with mem | mem | mem | mem | mem
  · exact hu.square mem
  · exact ha.not_mem (by decide) mem
  · exact (Comparison.plain_sign comparison '[' mem).2 rfl
  · exact hb.not_mem (by decide) mem
  · exact hv.square mem

theorem test_compare {u v a b : Text} (hu : Side u) (hv : Side v) (ha : a.IsBlank)
    (hb : b.IsBlank) (comparison : Comparison) :
    Test (u ++ (a ++ (comparison.sign ++ (b ++ v)))) (.compare u comparison v) := by
  have plain := plain_compare hu.plain hv.plain ha hb comparison
  have round : '(' ∉ u ++ (a ++ (comparison.sign ++ (b ++ v))) :=
    fun mem => absurd (plain '(' mem) (by decide)
  refine ⟨?_, plain, ?_⟩
  · have tight := hu.tight.append hv.tight (a ++ (comparison.sign ++ b))
    simpa only [List.append_assoc] using tight
  · have left : Text.trim (u ++ a) = u :=
      (Text.trim_append_blank ha u).trans (Text.trim_eq_self hu.tight)
    have right : Text.trim (b ++ v) = v :=
      (Text.trim_blank_append hb v).trans (Text.trim_eq_self hv.tight)
    rw [Call.restore_eq_self (square_compare hu hv ha hb comparison), ofOperand,
      Call.widest?_eq_none round, ← List.append_assoc,
      comparison?_append (hu.unrelated.append (unrelated_of_isBlank ha))
        ((unrelated_of_isBlank hb).append hv.unrelated), left, right]
    rfl

end ShaderPrep.Guard
