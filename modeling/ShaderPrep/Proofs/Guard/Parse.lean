import ShaderPrep.Proofs.Guard.Yard

/-! Conditions of the grammar are parsed into the guards of their formulas. Calls go into square
brackets, the yard puts the tests in order, and the reduction turns them into guards. -/
namespace ShaderPrep.Guard

theorem tight_group (s : Text) : Text.Tight ('(' :: (s ++ [')'])) := by
  have opening : Text.Tight ['('] := ⟨'(', '(', rfl, rfl, by decide, by decide⟩
  have closing : Text.Tight [')'] := ⟨')', ')', rfl, rfl, by decide, by decide⟩
  exact opening.append closing s

theorem Spells.tight {level : Level} {s : Text} {f : Formula} (h : Spells BracketCall level s f) :
    s.Tight := by
  induction h with
  | defined call => exact call.tight
  | undefined call ha => exact (call.test_not ha.isBlank).tight
  | present name => exact name.isWord.tight
  | compare hn hl ha hb => exact (test_compare hn.isWord.side hl.side ha.isBlank hb.isBlank _).tight
  | @group s f a b _ _ _ _ =>
    have tight := tight_group (a ++ (s ++ b))
    simpa using tight
  | factor _ ih => exact ih
  | term _ ih => exact ih
  | @and s f t g a b _ _ _ _ ihs iht =>
    have tight := ihs.append iht (a ++ ('&' :: '&' :: b))
    simpa using tight
  | @or s f t g a b _ _ _ _ ihs iht =>
    have tight := ihs.append iht (a ++ ('|' :: '|' :: b))
    simpa using tight

namespace Rpn

theorem Yard.foldl_step_of_all {lexemes : List Lexeme}
    (h : ∀ lexeme ∈ lexemes, lexeme.isStructural = false) (y : Yard) :
    lexemes.foldl step y = { y with pending := y.pending ++ lexemes.flatMap Lexeme.spelling } := by
  induction lexemes generalizing y with
  | nil => simp
  | cons lexeme lexemes ih =>
    have here := step_of_text (h lexeme List.mem_cons_self) y
    rw [List.foldl_cons, here, ih fun l mem => h l (List.mem_cons_of_mem lexeme mem)]
    simp

/-- The yard makes one operand of a text without structure, or none if it is blank. -/
theorem shunt_of_text {s : Text} (text : ∀ lexeme ∈ Lexeme.scan s, lexeme.isStructural = false) :
    shunt (Lexeme.scan s) = Yard.operands s := by
  simp only [shunt, Yard.foldl_step_of_all text, Lexeme.spelling_scan, Yard.finish,
    List.nil_append, Yard.drain, List.append_nil]

/-- For a text without blanks at its ends, a condition without structure is no exception. -/
theorem ofCondition_eq_shunt {s : Text} (tight : s.Tight) :
    ofCondition s = shunt (Lexeme.scan s) := by
  by_cases structural : (Lexeme.scan s).any Lexeme.isStructural = true
  · simp only [ofCondition, structural, if_true]
  · have none : ∀ lexeme ∈ Lexeme.scan s, lexeme.isStructural = false := by
      simpa using structural
    have operand : Yard.operands s = [.operand s] := by
      rw [Yard.operands, Text.trim_eq_self tight]
      obtain ⟨c, t, rfl⟩ := List.exists_cons_of_ne_nil tight.ne_nil
      rfl
    rw [shunt_of_text none, operand]
    exact if_neg structural

end Rpn

theorem Shunts.reduces_ofCondition {s : Text} {g : Guard} {out : List Rpn} {js : List Junction}
    (h : Shunts .condition s g out js) (tight : s.Tight) : Reduces (Rpn.ofCondition s) g := by
  obtain ⟨y, leaves⟩ := h.leaves {} blanks_nil rfl
  have form : Rpn.ofCondition s = out ++ js.map .junction := by
    have waiting : y.waiting = js.map .junction := by rw [leaves.waiting, List.append_nil]
    have output := leaves.output [] blanks_nil
    rw [List.append_nil, List.nil_append] at output
    calc Rpn.ofCondition s
        = (Rpn.Yard.read {} s).finish := Rpn.ofCondition_eq_shunt tight
      _ = y.output ++ (Rpn.Yard.operands y.pending ++ Rpn.Yard.drain y.waiting) := by
          rw [leaves.reads.read_eq]
          rfl
      _ = out ++ js.map .junction := by
          rw [← List.append_assoc, output, waiting, Rpn.Yard.drain_map]
  rw [form]
  exact h.reduces

/-- A condition that reduces to a guard with its calls protected is parsed into that guard, and
nothing of it is skipped. -/
theorem Reduces.reduceCondition {s s' : Text} {g : Guard} (h : Reduces (Rpn.ofCondition s') g)
    (turned : ∀ t, Settled t → Call.protect (s ++ t) = s' ++ Call.protect t) :
    ∃ part : Part, part.toGuard = g ∧ reduceCondition s = ⟨[part], []⟩ := by
  obtain ⟨part, made, reduced⟩ := h {}
  have protected_ : Call.protect s = s' := by
    have turned := turned [] (by simp [Settled])
    rw [List.append_nil] at turned
    rw [turned, show Call.protect [] = [] from rfl, List.append_nil]
  exact ⟨part, made, by rw [Guard.reduceCondition, protected_]; exact reduced⟩

/-- Nothing of a condition of the grammar is skipped, and its one part is the guard. -/
theorem Spells.reduceCondition {s : Text} {f : Formula} (h : Denotes s f) :
    ∃ part : Part, part.toGuard = f.guard ∧ reduceCondition s = ⟨[part], []⟩ := by
  obtain ⟨s', spelled, turned⟩ := h.protect
  obtain ⟨out, js, shunts⟩ := spelled.shunts
  exact (shunts.reduces_ofCondition spelled.tight).reduceCondition turned

theorem Spells.parse_eq {s : Text} {f : Formula} (h : Denotes s f) : parse s = f.guard := by
  obtain ⟨part, made, reduced⟩ := h.reduceCondition
  rw [parse, reduced, ← made]
  rfl

/-- A condition holds under a table of symbols exactly if the formula does that it stands for. -/
theorem parse_holds_iff {s : Text} {f : Formula} (h : Denotes s f) (symbols : Symbols) :
    (parse s).holds symbols = true ↔ f.Holds symbols := by
  rw [h.parse_eq]
  exact Formula.guard_holds_iff symbols f

/-- Redundant parentheses, odd spacing, and an "or" that binds less than the "and" behind it. -/
theorem parse_holds_iff_mixed :
    let s := "! defined ( A )||( (B ==-2 )\t&&C)&& defined(D)".toList
    let f : Formula := .or (.undefined ['A'])
      (.and (.and (.compare ['B'] .equal "-2".toList) (.present ['C'])) (.defined ['D']))
    let symbols := Symbols.ofEntries ["A 1".toList, "B -2".toList, "C".toList, "D".toList]
    Denotes s f ∧ f.Holds symbols ∧ (parse s).holds symbols = true := by
  intro s f symbols
  have space : Blanks [' '] := fun c mem => .inl (List.mem_singleton.mp mem)
  have tab : Blanks ['\t'] := fun c mem => .inr (List.mem_singleton.mp mem)
  have name (c : Char) (h : isNameChar c = true) : IsName [c] :=
    ⟨by simp, fun d mem => by rwa [List.mem_singleton.mp mem]⟩
  have literal : IsLiteral "-2".toList := ⟨['2'], .inr rfl, by decide,
    List.all_eq_true.mp (by decide)⟩
  have first := Spells.undefined (SpacedCall.mk (name 'A' (by decide)) space space space) space
  have compared : Spells SpacedCall .factor _ (.compare ['B'] .equal "-2".toList) :=
    .group (.term (.factor (.compare (name 'B' (by decide)) literal space blanks_nil))) blanks_nil
      space
  have both := Spells.and (.factor compared) (.present (name 'C' (by decide))) tab blanks_nil
  have last := Spells.defined (SpacedCall.mk (name 'D' (by decide)) blanks_nil blanks_nil
    blanks_nil)
  have group := Spells.group (.term both) space blanks_nil
  have spelled : Denotes s f :=
    Spells.or (.term (.factor first)) (.and (.factor group) last blanks_nil space) blanks_nil
      blanks_nil
  have holds : f.Holds symbols := by decide
  exact ⟨spelled, holds, (parse_holds_iff spelled symbols).mpr holds⟩

end ShaderPrep.Guard
