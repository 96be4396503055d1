import ShaderPrep.Proofs.Guard.Conservation
import ShaderPrep.Proofs.Guard.Infix
import ShaderPrep.Proofs.Guard.Words

/-! Conditions that are taken apart, put together again from their reverse Polish form and read
once more. Whatever order the junctions and parentheses stand in, the operands that the yard makes
are read again as what they are, and so the guard comes out the same. -/
namespace ShaderPrep.Guard

/-- The text is empty or starts with a character that structures conditions. -/
def Stops (t : Text) : Prop := t.takeWhile isPlain = []

namespace Call

/-- Plain text that does not end as a call begins goes through unchanged, even if a parenthesis
opens behind it. -/
theorem protect_plain_of_stops {u t : Text} (plain : ∀ c ∈ u, isPlain c = true) (stops : Stops t)
    (apart : ∀ a : Text, a.IsBlank → ¬"defined".toList ++ a <:+ u) :
    protect (u ++ t) = u ++ protect t := by
  refine substitute_unmatched (by decide) fun v a r _ suffix same blank => ?_
  have whole : v = "defined".toList ++ a := by
    have taken := congrArg (List.takeWhile isPlain) same
    rwa [List.takeWhile_append_of_pos fun c mem => plain c (suffix.subset mem), stops,
      List.append_nil, List.takeWhile_append_of_pos plain_word,
      List.takeWhile_append_of_pos (plain_of_isBlank blank),
      List.takeWhile_cons_of_neg (by decide), List.append_nil] at taken
  exact absurd (whole ▸ suffix) (apart a blank)

/-- Nothing before a parenthesis is a call if the line ends before it is closed. -/
theorem protect_broken {u v t : Text} (plain : ∀ c ∈ u, isPlain c = true) (line : '\n' ∈ v)
    (inner : ∀ c ∈ v, isPlain c = true) :
    protect (u ++ '(' :: (v ++ ')' :: t)) = u ++ protect ('(' :: (v ++ ')' :: t)) := by
  refine substitute_unmatched (by decide) fun w a r _ suffix same blank => ?_
  refine Option.eq_none_iff_forall_ne_some.mpr fun argument closed => ?_
  have before : '(' ∉ w := fun mem => absurd (plain _ (suffix.subset mem)) (by decide)
  have word : '(' ∉ "defined".toList ++ a := by simp [blank.not_mem (c := '(') (by decide)]
  rw [← List.append_assoc] at same
  obtain ⟨-, rfl⟩ := Text.append_cons_inj before word same
  obtain ⟨rest, whole, filled, within, first⟩ := argument?_eq_some.mp closed
  obtain ⟨c, s, rfl⟩ := List.exists_cons_of_ne_nil filled
  obtain ⟨d, v, rfl⟩ := List.exists_cons_of_ne_nil (List.ne_nil_of_mem line)
  have last : ')' ∉ v := fun mem => absurd (inner _ (List.mem_cons_of_mem _ mem)) (by decide)
  have behind : v ++ ')' :: t = s ++ ')' :: rest := (List.cons.inj whole).2
  obtain ⟨rfl, -⟩ := Text.append_cons_inj last first behind
  obtain rfl : d = c := (List.cons.inj whole).1
  exact within line

end Call

/-- Nothing follows, or a structural lexeme does. -/
inductive Ends : Text → Prop
  | nil : Ends []
  | lexeme {lexeme : Lexeme} {t : Text} : lexeme.isStructural = true → Ends (lexeme.spelling ++ t)

section Scan
variable {u t : Text} {lexeme : Lexeme}

theorem scan_lexeme (structural : lexeme.isStructural = true) (t : Text) :
    Lexeme.scan (lexeme.spelling ++ t) = lexeme :: Lexeme.scan t := by
  obtain rfl | rfl | rfl | rfl := Lexeme.eq_of_isStructural structural
  · exact Lexeme.scan.eq_2 t
  · exact Lexeme.scan.eq_3 t
  · rw [Lexeme.spelling, List.singleton_append, Lexeme.scan]
  · rw [Lexeme.spelling, List.singleton_append, Lexeme.scan]

theorem stops_lexeme (structural : lexeme.isStructural = true) (t : Text) :
    Stops (lexeme.spelling ++ t) := by
  obtain rfl | rfl | rfl | rfl := Lexeme.eq_of_isStructural structural <;> rfl

/-- Plain text up to the next structural lexeme is one run. -/
theorem scan_plain (filled : u ≠ []) (plain : ∀ c ∈ u, isPlain c = true) (ends : Ends t) :
    Lexeme.scan (u ++ t) = .text u :: Lexeme.scan t := by
  induction u with
  | nil => exact absurd rfl filled
  | cons c u ih =>
    rw [List.cons_append, Rpn.Yard.scan_cons_of_plain (plain c List.mem_cons_self)]
    rcases eq_or_ne u [] with rfl | more
    · cases ends with
      | nil => rfl
      | @lexeme l r structural =>
        rw [List.nil_append, scan_lexeme structural]
        obtain rfl | rfl | rfl | rfl := Lexeme.eq_of_isStructural structural <;> rfl
    · rw [ih more fun d mem => plain d (List.mem_cons_of_mem c mem)]
      rfl

/-- Plain text is one operand at most, of which only the blanks around it are lost; all of it is
lost if a parenthesis opens behind it. -/
theorem mem_operands_plain (plain : ∀ c ∈ u, isPlain c = true) (ends : Ends t) {text : Text}
    (mem : text ∈ Lexeme.operands (Lexeme.scan (u ++ t))) :
    text ∈ Lexeme.operands (Lexeme.scan t) ∨ text = u.trim ∧ text ≠ [] ∧ t.head? ≠ some '(' := by
  rcases eq_or_ne u [] with rfl | filled
  · exact .inl mem
  · have run : ∀ lexeme ∈ [Lexeme.text u], lexeme.isStructural = false :=
      List.forall_mem_singleton.mpr rfl
    have own (mem : text ∈ [Text.trim ([Lexeme.text u].flatMap Lexeme.spelling)].filter (· != [])) :
        text = u.trim ∧ text ≠ [] := by
      simpa [Lexeme.spelling] using mem
    rw [scan_plain filled plain ends, ← List.singleton_append] at mem
    cases ends with
    | nil =>
      rw [show Lexeme.scan [] = [] from rfl, List.append_nil, Lexeme.operands_of_plain run] at mem
      exact .inr ⟨(own mem).1, (own mem).2, by simp⟩
    | @lexeme l r structural =>
      rw [scan_lexeme structural] at mem ⊢
      rw [Lexeme.operands_cons structural]
      by_cases opens : l = .opening
      · rw [opens, Lexeme.operands_append_opening run] at mem
        exact .inl mem
      · rw [Lexeme.operands_append_cons run structural opens] at mem
        rcases List.mem_append.mp mem with mem | mem
        · have other : (l.spelling ++ r).head? ≠ some '(' := by
            obtain rfl | rfl | rfl | rfl := Lexeme.eq_of_isStructural structural
            · simp [Lexeme.spelling]
            · simp [Lexeme.spelling]
            · exact absurd rfl opens
            · simp [Lexeme.spelling]
          exact .inr ⟨(own mem).1, (own mem).2, other⟩
        · exact .inl mem

end Scan

/-- All operands that the yard makes of a text are read again as what they are. -/
def Sound (s : Text) : Prop := ∀ text ∈ Lexeme.operands (Lexeme.scan s), Faithful text

namespace Sound
variable {u t : Text}

theorem nil : Sound [] := by
  intro text mem
  cases mem

theorem lexeme {lexeme : Lexeme} (structural : lexeme.isStructural = true) (h : Sound t) :
    Sound (lexeme.spelling ++ t) := by
  rwa [Sound, scan_lexeme structural, Lexeme.operands_cons structural]

theorem plain_append (h : Sound t) (plain : ∀ c ∈ u, isPlain c = true) (ends : Ends t)
    (own : u.trim ≠ [] → Faithful u.trim) : Sound (u ++ t) := by
  intro text mem
  rcases mem_operands_plain plain ends mem with mem | ⟨rfl, filled, -⟩
  · exact h text mem
  · exact own filled

theorem before_opening (h : Sound t) (plain : ∀ c ∈ u, isPlain c = true) :
    Sound (u ++ '(' :: t) := by
  have opens : Lexeme.opening.isStructural = true := rfl
  intro text mem
  rcases mem_operands_plain plain (.lexeme opens) mem with mem | ⟨-, -, other⟩
  · exact h.lexeme opens text mem
  · exact absurd rfl other

end Sound

theorem structured_lexeme {lexeme : Lexeme} (structural : lexeme.isStructural = true)
    (u t : Text) : Structured (u ++ (lexeme.spelling ++ t)) := by
  have found {word : Text} : Text.occurs word (u ++ (word ++ t)) = true :=
    Text.occurs_iff.mpr ⟨u, t, (List.append_assoc u word t).symm⟩
  obtain rfl | rfl | rfl | rfl := Lexeme.eq_of_isStructural structural
  · exact .inl found
  · exact .inr (.inl found)
  · exact .inr (.inr (.inl (by simp [Lexeme.spelling])))
  · exact .inr (.inr (.inr (by simp [Lexeme.spelling])))

/-- A part of a condition and what becomes of it once calls are protected. -/
structure Turned (s s' : Text) : Prop where
  protect : ∀ t, Stops t → Call.protect (s ++ t) = s' ++ Call.protect t
  sound : ∀ t, Ends t → Sound t → Sound (s' ++ t)
  /-- Without structure nothing is trimmed, so that blanks are kept and read again. -/
  again : Structured s' ∨ Call.protect (Call.restore s') = s'

namespace Turned
variable {s s' t t' a b : Text} {g : Guard}

theorem cons {lexeme : Lexeme} (structural : lexeme.isStructural = true)
    (first : Turned s s') (last : Turned t t') :
    Turned (s ++ (lexeme.spelling ++ t)) (s' ++ (lexeme.spelling ++ t')) where
  protect r stops := by
    have word : 'd' ∉ lexeme.spelling := by
      obtain rfl | rfl | rfl | rfl := Lexeme.eq_of_isStructural structural <;> decide
    calc Call.protect (s ++ (lexeme.spelling ++ t) ++ r)
        = Call.protect (s ++ (lexeme.spelling ++ (t ++ r))) := by simp
      _ = s' ++ (lexeme.spelling ++ (t' ++ Call.protect r)) := by
          rw [first.protect _ (stops_lexeme structural _), protect_skip word, last.protect r stops]
      _ = s' ++ (lexeme.spelling ++ t') ++ Call.protect r := by simp
  sound r ends h := by
    have behind : Sound (lexeme.spelling ++ (t' ++ r)) := (last.sound r ends h).lexeme structural
    have whole := first.sound _ (.lexeme structural) behind
    simpa using whole
  again := .inl (structured_lexeme structural s' t')

theorem blank (ha : a.IsBlank) : Turned a a where
  protect t _ := protect_skip (ha.not_mem (by decide)) t
  sound t ends h := h.plain_append (plain_of_isBlank ha) ends fun filled =>
    absurd ha.trim_eq_nil filled
  again := by
    rw [Call.restore_eq_self (ha.not_mem (by decide)), protect_eq_self (ha.not_mem (by decide))]
    exact .inr rfl

theorem operand {o o' r : Text} (ha : a.IsBlank) (hb : b.IsBlank) (test : Test o' g)
    (bracketed : Bracketed r o' g)
    (protect : ∀ t, Stops t → Call.protect (o ++ (b ++ t)) = o' ++ (b ++ Call.protect t)) :
    Turned (a ++ (o ++ b)) (a ++ (o' ++ b)) where
  protect t stops := by
    have first : 'd' ∉ a := ha.not_mem (by decide)
    calc Call.protect (a ++ (o ++ b) ++ t)
        = Call.protect (a ++ (o ++ (b ++ t))) := by simp
      _ = a ++ (o' ++ (b ++ Call.protect t)) := by rw [protect_skip first, protect t stops]
      _ = a ++ (o' ++ b) ++ Call.protect t := by simp
  sound t ends h := by
    refine h.plain_append (plain_among ha test.plain hb) ends fun _ => ?_
    rw [Text.trim_append ha test.tight hb]
    exact bracketed.faithful test
  again := by
    have next : '[' ∉ b.takeWhile isPlain := fun mem =>
      hb.not_mem (c := '[') (by decide) ((List.takeWhile_prefix _).subset mem)
    have settled : Settled b := by
      have settled := Settled.append (plain_of_isBlank hb) (t := []) (by simp [Settled])
      rwa [List.append_nil] at settled
    rw [Call.restore_skip (ha.not_mem (by decide)), bracketed.restore b next,
      Call.restore_eq_self (hb.not_mem (by decide)), protect_skip (ha.not_mem (by decide)),
      bracketed.factor.turned b settled, protect_eq_self (hb.not_mem (by decide))]
    exact .inr rfl

/-- A test without brackets is protected as it is, unless a call begins at its end. -/
theorem plain {o : Text} (ha : a.IsBlank) (hb : b.IsBlank) (test : Test o g) (square : '[' ∉ o)
    (apart : ¬"defined".toList <:+ o) : Turned (a ++ (o ++ b)) (a ++ (o ++ b)) := by
  refine operand ha hb test (.of_test test square) fun t stops => ?_
  have plain : ∀ c ∈ o ++ b, isPlain c = true :=
    plain_among (a := []) (List.forall_mem_nil _) test.plain hb
  have word : Text.Tight "defined".toList := ⟨'d', 'd', rfl, rfl, by decide, by decide⟩
  rw [← List.append_assoc, Call.protect_plain_of_stops plain stops, List.append_assoc]
  rintro c hc ⟨w, same⟩
  have ends : o = w ++ "defined".toList := by
    have trimmed := congrArg Text.trimEnd same
    rw [← List.append_assoc, Text.trimEnd_append hc, word.trimEnd_append, Text.trimEnd_append hb,
      ← List.nil_append o, test.tight.trimEnd_append] at trimmed
    exact trimmed.symm
  exact apart ⟨w, ends.symm⟩

/-- What looks like a call, but goes over a line, is none; its argument is an operand. -/
theorem broken {u v : Text} (plain : ∀ c ∈ u, isPlain c = true) (hv : Side v)
    (ha : a.IsBlank) (hb : b.IsBlank) (ht : t.IsBlank) (line : '\n' ∈ a ++ (v ++ b)) :
    Turned (u ++ '(' :: (a ++ (v ++ b) ++ ')' :: t)) (u ++ '(' :: (a ++ (v ++ b) ++ ')' :: t)) where
  protect r stops := by
    have inner := plain_among ha hv.plain hb
    have opens (s : Text) : Call.protect ('(' :: s) = '(' :: Call.protect s :=
      protect_skip (u := ['(']) (by decide) s
    have closing : 'd' ∉ ')' :: t := by simp [ht.not_mem (c := 'd') (by decide)]
    have closes : Call.protect (')' :: (t ++ r)) = ')' :: (t ++ Call.protect r) :=
      protect_skip closing r
    have settled : Settled (')' :: (t ++ r)) := by simp [Settled, isPlain]
    calc Call.protect (u ++ '(' :: (a ++ (v ++ b) ++ ')' :: t) ++ r)
        = Call.protect (u ++ '(' :: (a ++ (v ++ b) ++ ')' :: (t ++ r))) := by simp
      _ = u ++ '(' :: (a ++ (v ++ b) ++ ')' :: (t ++ Call.protect r)) := by
          rw [Call.protect_broken plain line inner, opens, Call.protect_plain inner settled, closes]
      _ = u ++ '(' :: (a ++ (v ++ b) ++ ')' :: t) ++ Call.protect r := by simp
  sound r ends h := by
    have inner := plain_among ha hv.plain hb
    have closes : Lexeme.closing.isStructural = true := rfl
    have last : Sound (t ++ r) :=
      h.plain_append (plain_of_isBlank ht) ends fun filled => absurd ht.trim_eq_nil filled
    have name : Sound (a ++ (v ++ b) ++ ')' :: (t ++ r)) := by
      refine (last.lexeme closes).plain_append inner (.lexeme closes) fun _ => ?_
      rw [Text.trim_append ha hv.tight hb]
      exact (Bracketed.of_test hv.test hv.square).faithful hv.test
    have whole := name.before_opening plain
    simpa using whole
  again := .inl (.inr (.inr (.inl (by simp))))

end Turned

section Sequences

/-- A word that does not end as a call begins. -/
def IsSymbol (s : Text) : Prop := IsWord s ∧ ¬"defined".toList <:+ s

instance : DecidablePred IsSymbol := fun _ => inferInstanceAs (Decidable (_ ∧ ¬_))

/-- A call with any blanks between its tokens, line breaks as well. -/
inductive WideCall : Text → Prop
  | mk {name a b c : Text} : IsSymbol name → a.IsBlank → b.IsBlank → c.IsBlank →
      WideCall ("defined".toList ++ (a ++ '(' :: (b ++ (name ++ c) ++ [')'])))

/-- What may stand between two structural lexemes of a condition. -/
inductive Operand : Text → Prop
  | defined {s : Text} : WideCall s → Operand s
  | undefined {s a : Text} : WideCall s → a.IsBlank → Operand ('!' :: (a ++ s))
  | present {name : Text} : IsSymbol name → Operand name
  | compare {name literal a b : Text} {comparison : Comparison} : IsSymbol name →
      IsLiteral literal → a.IsBlank → b.IsBlank →
      Operand (name ++ (a ++ (comparison.sign ++ (b ++ literal))))

/-- At most one operand, among blanks. -/
inductive Gap : Text → Prop
  | blank {a : Text} : a.IsBlank → Gap a
  | operand {a o b : Text} : Operand o → a.IsBlank → b.IsBlank → Gap (a ++ (o ++ b))

/-- Junctions and parentheses in any order, with a gap between any two and at both ends. -/
inductive Sequence : Text → Prop
  | last {s : Text} : Gap s → Sequence s
  | cons {s t : Text} {lexeme : Lexeme} : Gap s → lexeme.isStructural = true → Sequence t →
      Sequence (s ++ (lexeme.spelling ++ t))

theorem IsLiteral.apart {s t : Text} (h : IsLiteral s) : ¬"defined".toList <:+ t ++ s := by
  intro word
  obtain ⟨digits, spelled, filled, all⟩ := h
  have digit : (digits.getLast filled).isDigit = true := all _ (List.getLast_mem filled)
  have last : (t ++ s).getLast? = some (digits.getLast filled) := by
    rcases spelled with rfl | rfl <;> simp [List.getLast?_append, List.getLast?_cons,
      List.getLast?_eq_some_getLast filled]
  obtain ⟨u, same⟩ := word
  rw [← same] at last
  have other : (u ++ "defined".toList).getLast? = some 'd' := by simp [List.getLast?_append]
  rw [other] at last
  exact absurd (Option.some.inj last ▸ digit) (by decide)

/-- A call becomes one in square brackets, with the mark in front of it, unless its argument goes
over a line. -/
theorem WideCall.turned {s a b u : Text} (h : WideCall s) (ha : a.IsBlank) (hb : b.IsBlank)
    (mark : u = [] ∨ ∃ d : Text, u = '!' :: d ∧ d.IsBlank) :
    ∃ s', Turned (a ++ (u ++ s ++ b)) s' := by
  obtain @⟨name, c, d, e, symbol, hc, hd, he⟩ := h
  by_cases line : '\n' ∈ d ++ (name ++ e)
  · have plain : ∀ x ∈ u, isPlain x = true := by
      rcases mark with rfl | ⟨d, rfl, hd⟩
      · exact List.forall_mem_nil _
      · exact List.forall_mem_cons.mpr ⟨by decide, plain_of_isBlank hd⟩
    have before : ∀ x ∈ a ++ (u ++ "defined".toList ++ c), isPlain x = true :=
      plain_among ha (List.forall_mem_append.mpr ⟨plain, plain_word⟩) hc
    have turned := Turned.broken before symbol.1.side hd he hb line
    exact ⟨_, by simpa using turned⟩
  · have argument := symbol.1.argument hd he line
    have first : 'd' ∉ u := by
      rcases mark with rfl | ⟨d, rfl, hd⟩
      · exact List.not_mem_nil
      · simp [hd.not_mem (c := 'd') (by decide)]
    obtain ⟨g, r, test, bracketed⟩ : ∃ g r,
        Test (u ++ ("defined".toList ++ '[' :: (d ++ (name ++ e) ++ [']']))) g ∧
          Bracketed r (u ++ ("defined".toList ++ '[' :: (d ++ (name ++ e) ++ [']']))) g := by
      rcases mark with rfl | ⟨d, rfl, hd⟩
      · exact ⟨_, _, (BracketCall.mk argument).test, .call argument⟩
      · exact ⟨_, _, (BracketCall.mk argument).test_not hd, .call_not argument hd⟩
    refine ⟨_, .operand ha hb test bracketed fun t _ => ?_⟩
    rw [List.append_assoc, protect_skip first, argument.protect hc,
      protect_skip (hb.not_mem (by decide))]
    simp only [List.append_assoc]

theorem Gap.turned {s : Text} (h : Gap s) : ∃ s', Turned s s' := by
  cases h with
  | blank ha => exact ⟨_, .blank ha⟩
  | operand own ha hb =>
    cases own with
    | defined call => exact call.turned ha hb (.inl rfl)
    | undefined call hd =>
      have turned := call.turned ha hb (.inr ⟨_, rfl, hd⟩)
      rwa [List.cons_append] at turned
    | present symbol =>
      exact ⟨_, .plain ha hb symbol.1.side.test symbol.1.side.square symbol.2⟩
    | @compare name literal c d comparison symbol number hc hd =>
      have square := square_compare symbol.1.side number.side hc hd comparison
      have test := test_compare symbol.1.side number.side hc hd comparison
      refine ⟨_, .plain ha hb test square ?_⟩
      rw [← List.append_assoc, ← List.append_assoc, ← List.append_assoc]
      exact number.apart

theorem Sequence.turned {s : Text} (h : Sequence s) : ∃ s', Turned s s' := by
  induction h with
  | last gap => exact gap.turned
  | cons gap structural _ ih =>
    obtain ⟨s', first⟩ := gap.turned
    obtain ⟨t', last⟩ := ih
    exact ⟨_, first.cons structural last⟩

/-- A condition put together again is parsed as it was, however its junctions and parentheses
stand: whether operands lack, are left over or are dropped. -/
theorem parse_restore_toInfix {s : Text} (h : Sequence s) :
    parse (Call.restore (Rpn.toInfix (Rpn.ofCondition (Call.protect s)))) = parse s := by
  obtain ⟨s', turned⟩ := h.turned
  have protected_ : Call.protect s = s' := by
    have turned := turned.protect [] rfl
    rwa [List.append_nil, show Call.protect [] = [] from rfl, List.append_nil] at turned
  have parsed : parse s = (reduce (Rpn.ofCondition s')).guard := by
    rw [parse, reduceCondition, protected_]
  rw [parsed, protected_]
  by_cases structured : Structured s'
  · have operands : (Rpn.ofCondition s').filterMap Rpn.operand? =
        Lexeme.operands (Lexeme.scan s') := by
      rw [Rpn.ofCondition_of_structured structured]
      exact Rpn.Yard.operands_finish (Lexeme.scan s') (List.forall_mem_nil _) rfl
    have sound : Sound s' := by
      have sound := turned.sound [] .nil .nil
      rwa [List.append_nil] at sound
    refine parse_toInfix fun text mem => sound text ?_
    exact operands ▸ List.mem_filterMap.mpr ⟨.operand text, mem, rfl⟩
  · have again : Call.protect (Call.restore s') = s' := turned.again.resolve_left structured
    calc parse (Call.restore (Rpn.toInfix (Rpn.ofCondition s')))
        = parse (Call.restore s') := by
          rw [Rpn.ofCondition_of_not_structured structured]
          rfl
      _ = (reduce (Rpn.ofCondition s')).guard := by rw [parse, reduceCondition, again]

/-- A parenthesis that closes nothing and one that is not closed, a call that goes over a line, and
two junctions that lack operands. -/
theorem parse_restore_toInfix_malformed :
    let s := ") A ==-3&& !\tdefined\t(B)|| && defined (\n C ) ( D && ".toList
    let written := Rpn.toInfix (Rpn.ofCondition (Call.protect s))
    Sequence s ∧ written = "((A ==-3&&!\tdefined[B])&&(C&&D))".toList ∧
      parse (Call.restore written) = parse s := by
  intro s written
  have symbol : IsSymbol ['A'] ∧ IsSymbol ['B'] ∧ IsSymbol ['C'] ∧ IsSymbol ['D'] := by decide
  have number : IsLiteral "-3".toList :=
    ⟨['3'], .inr rfl, by decide, List.all_eq_true.mp (by decide)⟩
  have none : Text.IsBlank [] := by decide
  have space : Text.IsBlank [' '] := by decide
  have tab : Text.IsBlank ['\t'] := by decide
  have line : Text.IsBlank ['\n', ' '] := by decide
  have compared : Gap " A ==-3".toList :=
    .operand (@Operand.compare ['A'] "-3".toList [' '] [] .equal symbol.1 number space none)
      space none
  have negated : Gap " !\tdefined\t(B)".toList :=
    .operand (.undefined (.mk symbol.2.1 tab none none) tab) space none
  have wide : Gap " defined (\n C ) ".toList :=
    .operand (.defined (.mk symbol.2.2.1 space line space)) space space
  have last : Gap " D ".toList := .operand (.present symbol.2.2.2) space space
  have behind : Sequence " D && ".toList := @Sequence.cons _ _ .and last rfl (.last (.blank space))
  have sequence : Sequence s :=
    @Sequence.cons [] _ .closing (.blank none) rfl <|
    @Sequence.cons _ _ .and compared rfl <|
    @Sequence.cons _ _ .or negated rfl <|
    @Sequence.cons _ _ .and (.blank space) rfl <|
    @Sequence.cons _ _ .opening wide rfl behind
  exact ⟨sequence, by decide, parse_restore_toInfix sequence⟩

end Sequences

end ShaderPrep.Guard
