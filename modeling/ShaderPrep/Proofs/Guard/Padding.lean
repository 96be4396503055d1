import ShaderPrep.Proofs.Guard.Conservation
import ShaderPrep.Proofs.Guard.Parse

/-! Blanks around a condition. The shunting yard trims what it puts out, but a condition without
structure does not get there and keeps its blanks: a mark of negation behind a blank does not count,
and a symbol with a blank at its end is another symbol. -/
namespace ShaderPrep.Guard

namespace Call

section Substitute
variable {opening closing opening' closing' : Char} {q : Text}

theorem argument?_append (h : closing ∉ q) (s : Text) :
    argument? closing (s ++ q) = argument? closing s := by
  ext argument
  rw [argument?_eq_some, argument?_eq_some]
  constructor
  · rintro ⟨rest, same, inside⟩
    obtain ⟨rest, same, -⟩ := Text.append_eq_append_cons h same
    exact ⟨rest, same, inside⟩
  · rintro ⟨rest, rfl, inside⟩
    exact ⟨rest ++ q, by simp, inside⟩

/-- A call is found whatever blanks follow. -/
theorem match?_append (bracket : Unicode.isBlank opening = false) (opens : opening ∉ q)
    (closes : closing ∉ q) (s : Text) :
    match? opening closing (s ++ q) = match? opening closing s := by
  ext ⟨argument, width⟩
  rw [match?_eq_some bracket, match?_eq_some bracket]
  constructor
  · rintro ⟨a, t, same, blank, found, counted⟩
    rw [← List.append_assoc] at same
    obtain ⟨t, whole, rfl⟩ := Text.append_eq_append_cons opens same
    rw [argument?_append closes] at found
    exact ⟨a, t, whole.trans (List.append_assoc ..), blank, found, counted⟩
  · rintro ⟨a, t, rfl, blank, found, counted⟩
    exact ⟨a, t ++ q, by simp, blank, (argument?_append closes t).trans found, counted⟩

theorem width_le (bracket : Unicode.isBlank opening = false) {s argument : Text} {width : Nat}
    (h : match? opening closing s = some (argument, width)) : width ≤ s.length := by
  obtain ⟨a, t, rfl, -, found, rfl⟩ := (match?_eq_some bracket).mp h
  obtain ⟨rest, rfl, -⟩ := argument?_eq_some.mp found
  simp only [List.length_append, List.length_cons, String.length_toList]
  omega

theorem substitute_padded (bracket : Unicode.isBlank opening = false)
    (bracket' : Unicode.isBlank closing = false) {p : Text} (hp : p.IsBlank) (hq : q.IsBlank)
    (s : Text) :
    Text.substitute (rule opening closing opening' closing') (p ++ (s ++ q)) =
      p ++ (Text.substitute (rule opening closing opening' closing') s ++ q) := by
  have skip {u : Text} (blank : u.IsBlank) (t : Text) :
      Text.substitute (rule opening closing opening' closing') (u ++ t) =
        u ++ Text.substitute (rule opening closing opening' closing') t :=
    substitute_skip bracket (blank.not_mem (by decide)) t
  have last : Text.substitute (rule opening closing opening' closing') q = q := by
    have last := skip hq []
    rwa [Text.substitute_nil, List.append_nil] at last
  rw [skip hp, Text.substitute_append, last]
  · intro v _ _
    rw [rule, rule, match?_append bracket (hq.not_mem bracket) (hq.not_mem bracket')]
  · intro v _ new width found
    obtain ⟨⟨argument, width'⟩, matched, same⟩ := Option.map_eq_some_iff.mp found
    obtain ⟨-, rfl⟩ := Prod.mk.inj same
    exact width_le bracket matched

end Substitute

variable {p q : Text} (hp : p.IsBlank) (hq : q.IsBlank)
include hp hq

theorem protect_padded (s : Text) : protect (p ++ (s ++ q)) = p ++ (protect s ++ q) :=
  substitute_padded (by decide) (by decide) hp hq s

theorem restore_padded (s : Text) : restore (p ++ (s ++ q)) = p ++ (restore s ++ q) :=
  substitute_padded (by decide) (by decide) hp hq s

end Call

section Structure
variable {p q : Text} (hp : p.IsBlank) (hq : q.IsBlank)
include hp hq

theorem occurs_padded {c : Char} {word : Text} (solid : Text.Solid (c :: word)) (s : Text) :
    Text.occurs (c :: word) (p ++ (s ++ q)) = Text.occurs (c :: word) s := by
  have first : c ∉ p := hp.not_mem (solid c List.mem_cons_self)
  rw [Text.occurs, Text.occurs, Text.cut?_padded first (hq.apart solid), Option.isSome_map]

theorem structured_padded (s : Text) : Structured (p ++ (s ++ q)) ↔ Structured s := by
  have ands : Text.occurs "&&".toList (p ++ (s ++ q)) = Text.occurs "&&".toList s :=
    occurs_padded hp hq (by decide) s
  have ors : Text.occurs "||".toList (p ++ (s ++ q)) = Text.occurs "||".toList s :=
    occurs_padded hp hq (by decide) s
  have outside (c : Char) (mark : Unicode.isBlank c = false) : c ∈ p ++ (s ++ q) ↔ c ∈ s := by
    simp [hp.not_mem mark, hq.not_mem mark]
  have opening := outside '(' (by decide)
  have closing := outside ')' (by decide)
  exact or_congr (Bool.coe_iff_coe.mpr ands)
    (or_congr (Bool.coe_iff_coe.mpr ors) (or_congr opening closing))

end Structure

namespace Rpn

namespace Yard

theorem operands_blank_append {p : Text} (hp : p.IsBlank) (s : Text) :
    operands (p ++ s) = operands s := by
  rw [operands, operands, Text.trim_blank_append hp]

/-- Blanks in front of what is pending make no difference. -/
theorem finish_blank_append {p : Text} (hp : p.IsBlank) (lexemes : List Lexeme) (y : Yard) :
    (lexemes.foldl step { y with pending := p ++ y.pending }).finish =
      (lexemes.foldl step y).finish := by
  induction lexemes generalizing y with
  | nil => simp only [List.foldl_nil, finish, operands_blank_append hp]
  | cons lexeme lexemes ih =>
    rw [List.foldl_cons, List.foldl_cons]
    by_cases structural : lexeme.isStructural = true
    · -- What is pending is trimmed here or dropped, and the blanks go either way.
      have same : step { y with pending := p ++ y.pending } lexeme = y.step lexeme := by
        obtain rfl | rfl | rfl | rfl := Lexeme.eq_of_isStructural structural
        · simp only [step, join, operands_blank_append hp]
        · simp only [step, join, operands_blank_append hp]
        · rfl
        · simp only [step, operands_blank_append hp]
      rw [same]
    · have text : lexeme.isStructural = false := by simpa using structural
      rw [step_of_text text, step_of_text text]
      have rest := ih { y with pending := y.pending ++ lexeme.spelling }
      simpa using rest

/-- Plain text at the end is pending: it makes no lexeme before it into another. -/
theorem read_append_plain {q : Text} (plain : ∀ c ∈ q, isPlain c = true) (s : Text) (y : Yard) :
    read y (s ++ q) = { read y s with pending := (read y s).pending ++ q } := by
  have single {c : Char} {s : Text} (other : isPlain c = false) (h : ∀ t, s = c :: t → False)
      (t : Text) : s ++ q = c :: t → False := by
    intro same
    cases s with
    | nil =>
      have whole : q = c :: t := same
      exact ne_true_of_eq_false other (plain c (whole ▸ List.mem_cons_self))
    | cons d s =>
      obtain ⟨rfl, -⟩ := List.cons.inj same
      exact h s rfl
  fun_induction Lexeme.scan s generalizing y with
  | case1 => exact (reads_plain plain y).read_eq
  | case2 s ih => exact ih (y.step .and)
  | case3 s ih => exact ih (y.step .or)
  | case4 s h ih =>
    have scanned := Lexeme.scan.eq_4 s h
    have scanned' := Lexeme.scan.eq_4 (s ++ q) (single (by decide) h)
    rw [read, read, List.cons_append, scanned, scanned']
    exact ih (y.step .ampersand)
  | case5 s h ih =>
    have scanned := Lexeme.scan.eq_5 s h
    have scanned' := Lexeme.scan.eq_5 (s ++ q) (single (by decide) h)
    rw [read, read, List.cons_append, scanned, scanned']
    exact ih (y.step .bar)
  | case6 s ih =>
    rw [List.cons_append, read, read, Lexeme.scan, Lexeme.scan]
    exact ih (y.step .opening)
  | case7 s ih =>
    rw [List.cons_append, read, read, Lexeme.scan, Lexeme.scan]
    exact ih (y.step .closing)
  | case8 c s _ _ ampersand bar opening closing ih =>
    have own : isPlain c = true := isPlain_of_ne ⟨ampersand, bar, opening, closing⟩
    rw [List.cons_append, read, read, scan_cons_of_plain own, scan_cons_of_plain own,
      foldl_consText, foldl_consText]
    exact ih _

end Yard

/-- Trimmed operands do not show blanks at either end of a condition. -/
theorem shunt_padded {p q : Text} (hp : p.IsBlank) (hq : q.IsBlank) (s : Text) :
    shunt (Lexeme.scan (p ++ (s ++ q))) = shunt (Lexeme.scan s) := by
  have first (t : Text) : Yard.read {} (p ++ t) = Yard.read { pending := p } t :=
    Yard.reads_plain (plain_of_isBlank hp) {} t
  have last (y : Yard) : Yard.finish { y with pending := y.pending ++ q } = y.finish := by
    simp only [Yard.finish, Yard.operands, Text.trim_append_blank hq]
  calc shunt (Lexeme.scan (p ++ (s ++ q)))
      = (Yard.read {} (p ++ (s ++ q))).finish := rfl
    _ = (Yard.read { pending := p } s).finish := by
        rw [first, Yard.read_append_plain (plain_of_isBlank hq), last]
    _ = shunt (Lexeme.scan s) := by
        have same := Yard.finish_blank_append hp (Lexeme.scan s) {}
        rwa [List.append_nil] at same

end Rpn

section Operands

theorem Call.widest?_append {q : Text} (opens : ∀ c ∈ q, c ∉ "defined(".toList) (closes : ')' ∉ q)
    (s : Text) : widest? (s ++ q) = widest? s := by
  induction s with
  | nil => exact widest?_eq_none fun mem => opens '(' mem (by decide)
  | cons c s ih =>
    have word := Text.after?_append_of_notMem opens (c :: s)
    have line (rest : Text) : ∃ more, ')' ∉ more ∧
        (rest ++ q).takeWhile (· != '\n') = rest.takeWhile (· != '\n') ++ more := by
      rw [List.takeWhile_append]
      split
      · next whole =>
        have outside : ')' ∉ q.takeWhile (· != '\n') :=
          fun mem => closes ((List.takeWhile_prefix _).subset mem)
        exact ⟨_, outside, by rw [(List.takeWhile_prefix _).eq_of_length whole]⟩
      · exact ⟨[], List.not_mem_nil, (List.append_nil _).symm⟩
    rw [List.cons_append] at word ⊢
    rw [widest?, widest?, word, ih]
    cases Text.after? "defined(".toList (c :: s) with
    | none => rfl
    | some rest =>
      obtain ⟨more, outside, same⟩ := line rest
      simp only [Option.map_some, Option.bind_eq_bind, Option.bind_some, same,
        Text.cutLast?_append_right outside]
      cases Text.cutLast? [')'] (rest.takeWhile (· != '\n')) <;> rfl

variable {p q : Text} (hp : p.IsBlank) (hq : q.IsBlank)
include hp hq

theorem Call.widest?_padded (s : Text) : widest? (p ++ (s ++ q)) = widest? s := by
  rw [widest?_skip (hp.not_mem (by decide)),
    widest?_append (hq.apart (by decide)) (hq.not_mem (by decide))]

/-- The sides of a comparison are trimmed. -/
theorem comparison?_padded (s : Text) (comparisons : List Comparison) :
    comparison? (p ++ (s ++ q)) comparisons = comparison? s comparisons := by
  induction comparisons with
  | nil => rfl
  | cons comparison comparisons ih =>
    have solid : Text.Solid comparison.sign := by cases comparison <;> decide
    obtain ⟨c, word, sign, -⟩ := Comparison.exists_sign comparison
    rw [sign] at solid
    have cut := Text.cut?_padded (hp.not_mem (solid c List.mem_cons_self)) (hq.apart solid) s
    rw [← sign] at cut
    rw [comparison?, comparison?, cut, ih]
    cases Text.cut? comparison.sign s with
    | none => rfl
    | some sides =>
      simp only [Option.map_some, Text.trim_blank_append hp, Text.trim_append_blank hq]

end Operands

theorem comparison?_eq_none_iff {s : Text} {comparisons : List Comparison} :
    comparison? s comparisons = none ↔
      ∀ comparison ∈ comparisons, Text.occurs comparison.sign s = false := by
  induction comparisons with
  | nil => simp [comparison?]
  | cons comparison comparisons ih =>
    rw [comparison?, List.forall_mem_cons, ← ih, Text.occurs]
    cases Text.cut? comparison.sign s with
    | none => simp
    | some sides => simp

/-- A call of `defined` that is negated. -/
def IsNegated (operand : Text) : Prop :=
  (Call.widest? operand).isSome ∧ operand.head? = some '!'

/-- Neither a call nor a comparison, but a symbol that is to be present. -/
def IsPresence (operand : Text) : Prop :=
  Call.widest? operand = none ∧
    ∀ comparison : Comparison, Text.occurs comparison.sign operand = false

instance : DecidablePred IsNegated := fun _ => inferInstanceAs (Decidable (_ ∧ _))

theorem isPresence_iff {operand : Text} :
    IsPresence operand ↔
      Call.widest? operand = none ∧ comparison? operand Comparison.all = none := by
  have all (comparison : Comparison) : comparison ∈ Comparison.all := by
    cases comparison <;> decide
  rw [IsPresence, comparison?_eq_none_iff]
  exact and_congr_right fun _ => ⟨fun h comparison _ => h comparison,
    fun h comparison => h comparison (all comparison)⟩

instance : DecidablePred IsPresence := fun _ => decidable_of_iff _ isPresence_iff.symm

section Tables

theorem defined_holds_iff_negated {symbol : Text} {b b' : Bool} :
    (∀ symbols, (Guard.defined symbol b).holds symbols = (Guard.defined symbol b').holds symbols) ↔
      b = b' := by
  constructor
  · intro same
    have empty := same ∅
    cases b <;> cases b' <;> simp_all [holds]
  · rintro rfl _
    rfl

theorem defined_holds_iff_symbol {symbol symbol' : Text} :
    (∀ symbols, (Guard.defined symbol false).holds symbols =
      (Guard.defined symbol' false).holds symbols) ↔ symbol = symbol' := by
  constructor
  · intro same
    -- A table with the one symbol tells it from any other.
    have single := same ((∅ : Symbols).insert symbol [])
    simp only [holds, Table.has, Table.get?_insert, if_true, Option.isSome_some,
      Bool.bne_false] at single
    by_cases own : symbol' = symbol
    · exact own.symm
    · rw [if_neg own] at single
      cases single
  · rintro rfl _
    rfl

end Tables

theorem ofOperand_padded_iff {p q : Text} (hp : p.IsBlank) (hq : q.IsBlank) (operand : Text) :
    (∀ symbols, (ofOperand (p ++ (operand ++ q))).holds symbols =
      (ofOperand operand).holds symbols) ↔
        (IsNegated operand → p = []) ∧ (IsPresence operand → p = [] ∧ q = []) := by
  rw [ofOperand, ofOperand, Call.widest?_padded hp hq, comparison?_padded hp hq]
  cases found : Call.widest? operand with
  | some argument =>
    have negated : IsNegated operand ↔ operand.head? = some '!' := by simp [IsNegated, found]
    have presence : ¬IsPresence operand := by simp [IsPresence, found]
    have first : ((p ++ (operand ++ q)).head? = some '!' ↔ operand.head? = some '!') ↔
        (IsNegated operand → p = []) := by
      cases p with
      | nil =>
        have filled : operand ≠ [] := by
          rintro rfl
          cases found
        simp [filled]
      | cons c p =>
        have other : c ≠ '!' := by
          rintro rfl
          exact hp.not_mem (c := '!') (by decide) List.mem_cons_self
        simp [other, negated]
    rw [defined_holds_iff_negated, decide_eq_decide, first]
    simp [presence]
  | none =>
    have negated : ¬IsNegated operand := by simp [IsNegated, found]
    cases compared : comparison? operand Comparison.all with
    | some guard =>
      have presence : ¬IsPresence operand := by simp [isPresence_iff, compared]
      simp [negated, presence]
    | none =>
      have presence : IsPresence operand := isPresence_iff.mpr ⟨found, compared⟩
      have same : p ++ (operand ++ q) = operand ↔ p = [] ∧ q = [] := by
        constructor
        · intro same
          have lengths := congrArg List.length same
          simp only [List.length_append] at lengths
          exact ⟨List.eq_nil_of_length_eq_zero (by omega),
            List.eq_nil_of_length_eq_zero (by omega)⟩
        · rintro ⟨rfl, rfl⟩
          exact List.append_nil operand
      simp only [Option.getD_none, defined_holds_iff_symbol, same, negated, presence,
        false_implies, true_and, true_implies]

theorem parse_eq_ofOperand {s : Text} (loose : ¬Structured (Call.protect s)) :
    parse s = ofOperand (Call.restore (Call.protect s)) := by
  rw [parse, reduceCondition, Rpn.ofCondition_of_not_structured loose]
  rfl

theorem parse_padded_of_structured {p q s : Text} (hp : p.IsBlank) (hq : q.IsBlank)
    (structured : Structured (Call.protect s)) : parse (p ++ (s ++ q)) = parse s := by
  have padded : Structured (p ++ (Call.protect s ++ q)) :=
    (structured_padded hp hq _).mpr structured
  rw [parse, parse, reduceCondition, reduceCondition, Call.protect_padded hp hq,
    Rpn.ofCondition_of_structured padded, Rpn.ofCondition_of_structured structured,
    Rpn.shunt_padded hp hq]

/-- The condition that does not get to the yard is what the yard would make of it just if there is
nothing to trim, and something to keep. -/
theorem Rpn.ofCondition_eq_shunt_iff (s : Text) :
    ofCondition s = shunt (Lexeme.scan s) ↔ Structured s ∨ s.Tight := by
  constructor
  · intro same
    refine Classical.or_iff_not_imp_left.mpr fun loose => ?_
    have text : ∀ lexeme ∈ Lexeme.scan s, lexeme.isStructural = false := by
      simpa using mt (Lexeme.any_isStructural_scan s).mp loose
    rw [ofCondition_of_not_structured loose, shunt_of_text text, Yard.operands] at same
    split at same
    · cases same
    · next filled =>
      have kept : s = s.trim := by simpa using same
      rw [kept]
      exact Text.tight_trim filled
  · rintro (structured | tight)
    · exact ofCondition_of_structured structured
    · exact ofCondition_eq_shunt tight

/-- Blanks around a condition change its guard just where there is no junction or parenthesis to
bring it to the yard: in front of a negated call, and on either side of a symbol that is to be
present. -/
theorem holds_padded_iff {p q : Text} (hp : p.IsBlank) (hq : q.IsBlank) (s : Text) :
    let operand := Call.restore (Call.protect s)
    ((∀ symbols, (parse (p ++ (s ++ q))).holds symbols = (parse s).holds symbols) ↔
      Structured (Call.protect s) ∨
        (IsNegated operand → p = []) ∧ (IsPresence operand → p = [] ∧ q = [])) ∧
    (Rpn.ofCondition s = Rpn.shunt (Lexeme.scan s) ↔ Structured s ∨ s.Tight) := by
  intro operand
  refine ⟨?_, Rpn.ofCondition_eq_shunt_iff s⟩
  by_cases structured : Structured (Call.protect s)
  · simp [parse_padded_of_structured hp hq structured, structured]
  · have padded : ¬Structured (Call.protect (p ++ (s ++ q))) := by
      rwa [Call.protect_padded hp hq, structured_padded hp hq]
    rw [parse_eq_ofOperand structured, parse_eq_ofOperand padded, Call.protect_padded hp hq,
      Call.restore_padded hp hq, ofOperand_padded_iff hp hq, or_iff_right structured]

/-- Behind a negated call blanks are harmless. In front of it they undo the negation, and both in
front of a lone symbol and behind it they ask for another symbol. -/
theorem holds_padded_iff_leaves :
    let call := "!defined(A)".toList
    let name := "A".toList
    (∀ symbols, (parse (call ++ [' '])).holds symbols = (parse call).holds symbols) ∧
      (¬∀ symbols, (parse (' ' :: call)).holds symbols = (parse call).holds symbols) ∧
      (¬∀ symbols, (parse (name ++ ['\n'])).holds symbols = (parse name).holds symbols) ∧
      ∀ symbols, (parse " (A)\t".toList).holds symbols = (parse "(A)".toList).holds symbols := by
  intro call name
  have none : Text.IsBlank [] := by decide
  have space : Text.IsBlank [' '] := by decide
  have tab : Text.IsBlank ['\t'] := by decide
  have line : Text.IsBlank ['\n'] := by decide
  refine ⟨?_, ?_, ?_, ?_⟩
  · exact (holds_padded_iff none space call).1.mpr (by decide)
  · have undone := (holds_padded_iff space none call).1
    rw [List.append_nil] at undone
    exact mt undone.mp (by decide)
  · exact mt (holds_padded_iff none line name).1.mp (by decide)
  · exact (holds_padded_iff space tab "(A)".toList).1.mpr (by decide)

/-- A blank in front turns a negated call, and one behind a symbol leaves it undefined. -/
theorem holds_padded_ne :
    let symbols := Symbols.ofEntries [['A']]
    (parse " !defined(A)".toList).holds symbols = true ∧
      (parse "!defined(A)".toList).holds symbols = false ∧
      (parse "A ".toList).holds symbols = false ∧ (parse "A".toList).holds symbols = true ∧
      Rpn.ofCondition "A ".toList ≠ Rpn.shunt (Lexeme.scan "A ".toList) := by
  decide

end ShaderPrep.Guard
