import ShaderPrep.Proofs.Target.Blocks
import ShaderPrep.Proofs.Text.Words

/-! Plain declarations of uniforms by their words. Of a line with one semicolon, at its end, the
words in front of this decide whether it counts as a plain declaration: a type and a name must be
the last ones, behind the keyword and perhaps a precision. A declaration with more words opens a
uniform block, if the hook for the start of blocks answers. -/
namespace ShaderPrep.Target
open Text

section Recognition
variable {s rest : Text}

theorem somewhere_iff {p : Text → Bool} {s : Text} :
    somewhere p s = true ↔ ∃ before rest, s = before ++ rest ∧ p rest = true := by
  induction s with
  | nil =>
    constructor
    · exact fun h => ⟨[], [], rfl, h⟩
    · rintro ⟨before, rest, empty, h⟩
      obtain ⟨rfl, rfl⟩ := List.append_eq_nil_iff.mp empty.symm
      exact h
  | cons c s ih =>
    rw [somewhere, Bool.or_eq_true, ih]
    constructor
    · rintro (here | ⟨before, rest, rfl, h⟩)
      · exact ⟨[], c :: s, rfl, here⟩
      · exact ⟨c :: before, rest, rfl, h⟩
    · rintro ⟨before, rest, whole, h⟩
      cases before with
      | nil => exact .inl (whole ▸ h)
      | cons d before =>
        obtain ⟨rfl, rfl⟩ := List.cons.inj whole
        exact .inr ⟨before, rest, rfl, h⟩

/-- A word in front of what does not go on with it. -/
theorem word_append {w : Text} (solid : Solid w) (apart : Apart rest) :
    word (w ++ rest) = (w, rest) := by
  have own : ∀ c ∈ w, (!Unicode.isBlank c) = true := fun c mem => by simp [solid c mem]
  have stop : rest.takeWhile (!Unicode.isBlank ·) = [] ∧
      rest.dropWhile (!Unicode.isBlank ·) = rest := by
    cases rest with
    | nil => exact ⟨rfl, rfl⟩
    | cons c rest =>
      have blank := apart c rfl
      exact ⟨List.takeWhile_cons_of_neg (by simp [blank]),
        List.dropWhile_cons_of_neg (by simp [blank])⟩
  rw [word, List.takeWhile_append_of_pos own, List.dropWhile_append_of_pos own, stop.1, stop.2,
    List.append_nil]

/-- Without its first blanks, a statement is its semicolon or starts with its first word. -/
theorem trimStart_statement (single : ';' ∉ s) :
    (words s = [] ∧ trimStart (s ++ [';']) = [';']) ∨
      ∃ w rest, trimStart (s ++ [';']) = w ++ (rest ++ [';']) ∧ words s = w :: words rest ∧
        w ≠ [] ∧ Solid w ∧ Apart rest ∧ ';' ∉ w ∧ ';' ∉ rest := by
  rcases isBlank_or_exists_word s with blank | ⟨gap, w, rest, rfl, blank, filled, solid, apart⟩
  · exact .inl ⟨blank.words_eq_nil, trimStart_append blank [';']⟩
  · simp only [List.mem_append, not_or] at single
    refine .inr ⟨w, rest, ?_, ?_, filled, solid, apart, single.2.1, single.2.2⟩
    · rw [List.append_assoc, trimStart_append blank, List.append_assoc]
      obtain ⟨c, w, rfl⟩ := List.exists_cons_of_ne_nil filled
      exact List.dropWhile_cons_of_neg (by simp [solid c List.mem_cons_self])
    · rw [words_blank_append blank, words_word_append filled solid apart]

theorem begins_statement_iff (single : ';' ∉ s) :
    begins [';'] (trimStart (s ++ [';'])) = true ↔ words s = [] := by
  rcases trimStart_statement single with ⟨none, whole⟩ |
    ⟨w, rest, whole, cut, filled, -, -, own, -⟩
  · rw [whole, none]
    exact iff_of_true rfl rfl
  · obtain ⟨c, w, rfl⟩ := List.exists_cons_of_ne_nil filled
    have other : ';' ≠ c := fun same => own (same ▸ List.mem_cons_self)
    have stop : begins [';'] (c :: w ++ (rest ++ [';'])) = false := by simp [begins, after?, other]
    rw [whole, stop, cut]
    exact iff_of_false Bool.false_ne_true (by simp)

/-- The first word of a statement, which the semicolon may end, and what is behind it. -/
theorem word_statement (single : ';' ∉ s) :
    (words s = [] ∧ word (trimStart (s ++ [';'])) = ([';'], [])) ∨
      (∃ c w, words s = [c :: w] ∧ word (trimStart (s ++ [';'])) = (c :: (w ++ [';']), [])) ∨
      ∃ c w rest, words s = (c :: w) :: words rest ∧
        word (trimStart (s ++ [';'])) = (c :: w, rest ++ [';']) ∧
        Apart rest ∧ rest ≠ [] ∧ ';' ∉ w ∧ ';' ∉ rest := by
  rcases trimStart_statement single with ⟨none, whole⟩ |
    ⟨w, rest, whole, cut, filled, solid, apart, own, single⟩
  · exact .inl ⟨none, by rw [whole]; decide⟩
  · obtain ⟨c, w, rfl⟩ := List.exists_cons_of_ne_nil filled
    rw [whole, cut]
    by_cases last : rest = []
    · obtain rfl := last
      have longer : Solid (c :: w ++ [';']) :=
        List.forall_mem_append.mpr ⟨solid, List.forall_mem_singleton.mpr (by decide)⟩
      have all := word_append longer apart_nil
      rw [List.append_nil] at all
      exact .inr (.inl ⟨c, w, rfl, all⟩)
    · have apart' : Apart (rest ++ [';']) := by
        obtain ⟨d, rest, rfl⟩ := List.exists_cons_of_ne_nil last
        exact apart
      have own' : ';' ∉ w := fun mem => own (List.mem_cons_of_mem c mem)
      exact .inr (.inr ⟨c, w, rest, rfl, word_append solid apart', apart, last, own', single⟩)

theorem afterBlanks?_statement (apart : Apart rest) (filled : rest ≠ []) :
    afterBlanks? (rest ++ [';']) = some (trimStart (rest ++ [';'])) := by
  obtain ⟨c, rest, rfl⟩ := List.exists_cons_of_ne_nil filled
  have blank : Unicode.isBlank c = true := apart c rfl
  rw [List.cons_append, afterBlanks?, if_pos blank, trimStart, List.dropWhile_cons_of_pos blank]

theorem endsDeclaration_iff (single : ';' ∉ s) :
    endsDeclaration (trimStart (s ++ [';'])) = true ↔ ∃ name, words s = [name] := by
  rcases word_statement single with ⟨cut, first⟩ | ⟨c, w, cut, first⟩ |
    ⟨c, w, rest, cut, first, -, -, own, single⟩
  · rw [endsDeclaration, first, cut]
    exact iff_of_false (by decide) (by simp)
  · rw [endsDeclaration, first, cut]
    exact iff_of_true (by simp) ⟨_, rfl⟩
  · have inside : w.contains ';' = false := by simpa using own
    rw [endsDeclaration, first, cut]
    simp only [inside, Bool.false_or, begins_statement_iff single]
    simp

theorem typedDeclaration_iff (single : ';' ∉ s) :
    typedDeclaration (trimStart (s ++ [';'])) = true ↔ ∃ type name, words s = [type, name] := by
  rcases word_statement single with ⟨cut, first⟩ | ⟨c, w, cut, first⟩ |
    ⟨c, w, rest, cut, first, apart, filled, -, single⟩
  · rw [typedDeclaration, first, cut]
    exact iff_of_false (by decide) (by simp)
  · rw [typedDeclaration, first, cut]
    exact iff_of_false Bool.false_ne_true (by simp)
  · rw [typedDeclaration, first, cut]
    simp only [afterBlanks?_statement apart filled, Option.any_some, endsDeclaration_iff single]
    simp

/-- What a statement starts with, if it has no blanks, its first word starts with. -/
theorem exists_of_statement_eq {w p r : Text} (apart : Apart rest) (solid : Solid p)
    (clean : ';' ∉ p) (h : w ++ (rest ++ [';']) = p ++ r) :
    ∃ w', w = p ++ w' ∧ r = w' ++ (rest ++ [';']) := by
  rcases List.append_eq_append_iff.mp h with ⟨a, spelled, behind⟩ | ⟨a, spelled, behind⟩
  · cases a with
    | nil =>
      rw [List.append_nil] at spelled
      exact ⟨[], by rw [spelled, List.append_nil], behind.symm⟩
    | cons c a =>
      have inside : c ∈ p := spelled ▸ List.mem_append_right w List.mem_cons_self
      cases rest with
      | nil =>
        obtain ⟨rfl, -⟩ := List.cons.inj behind
        exact absurd inside clean
      | cons d rest =>
        obtain ⟨rfl, -⟩ := List.cons.inj behind
        exact absurd (apart d rfl) (ne_true_of_eq_false (solid d inside))
  · exact ⟨a, spelled, behind⟩

theorem typedBehind_iff (p : Text) (filled : p ≠ []) (solid : Solid p) (clean : ';' ∉ p)
    (single : ';' ∉ s) :
    ((after? p (trimStart (s ++ [';']))).map trimStart).any typedDeclaration = true ↔
      (∃ type name, words s = [p, type, name]) ∨ ∃ w name, w ≠ [] ∧ words s = [p ++ w, name] := by
  rcases trimStart_statement single with ⟨none, whole⟩ |
    ⟨w, rest, whole, cut, -, wordSolid, apart, own, single⟩
  · obtain ⟨c, p, rfl⟩ := List.exists_cons_of_ne_nil filled
    have other : c ≠ ';' := fun same => clean (same ▸ List.mem_cons_self)
    rw [whole, none, after?_eq_none_of_head other]
    exact iff_of_false Bool.false_ne_true (by simp)
  · rw [whole, cut]
    cases found : after? p (w ++ (rest ++ [';'])) with
    | none =>
      refine iff_of_false Bool.false_ne_true ?_
      have starts (w' : Text) : w ≠ p ++ w' := by
        rintro rfl
        rw [List.append_assoc, after?_append] at found
        cases found
      rintro (⟨type, name, same⟩ | ⟨w', name, -, same⟩)
      · exact starts [] ((List.cons.inj same).1.trans (List.append_nil p).symm)
      · exact starts w' (List.cons.inj same).1
    | some r =>
      obtain ⟨w', rfl, rfl⟩ := exists_of_statement_eq apart solid clean (after?_eq_some.mp found)
      have clean' : ';' ∉ w' ++ rest := by
        simp only [List.mem_append, not_or] at own ⊢
        exact ⟨own.2, single⟩
      have solid' : Solid w' := (List.forall_mem_append.mp wordSolid).2
      rw [Option.map_some, Option.any_some, ← List.append_assoc, typedDeclaration_iff clean']
      -- What directly follows the precision goes on as the first word; then it is a type.
      cases w' with
      | nil => simp
      | cons c w' =>
        rw [words_word_append (List.cons_ne_nil c w') solid' apart]
        simp

/-- The precisions that declarations can name. -/
inductive Precision where
  | high
  | medium
  | low
  deriving DecidableEq, Repr

def Precision.spelling : Precision → Text
  | high => "highp".toList
  | medium => "mediump".toList
  | low => "lowp".toList

theorem Precision.spelling_inj {p q : Precision} : p.spelling = q.spelling ↔ p = q := by
  cases p <;> cases q <;> decide

/-- The words behind the keyword of a plain declaration. -/
def PlainTail (tail : List Text) : Prop :=
  ∃ type name, tail = [type, name] ∨
    tail = [Precision.high.spelling, type, name] ∨ tail = [Precision.low.spelling, type, name]

theorem startsUniform_iff (single : ';' ∉ s) :
    startsUniform (s ++ [';']) = true ↔
      ∃ r, s = "uniform".toList ++ r ∧ r ≠ [] ∧ Apart r ∧ PlainTail (words r) := by
  have ends : ∀ c ∈ [';'], c ∉ "uniform".toList := List.forall_mem_singleton.mpr (by decide)
  rw [startsUniform, after?_append_of_notMem ends]
  cases found : after? "uniform".toList s with
  | none =>
    refine iff_of_false Bool.false_ne_true ?_
    rintro ⟨r, rfl, -⟩
    rw [after?_append] at found
    cases found
  | some r =>
    obtain rfl := after?_eq_some.mp found
    have clean : ';' ∉ r := fun mem => single (List.mem_append_right _ mem)
    have only : (∃ r', "uniform".toList ++ r = "uniform".toList ++ r' ∧ r' ≠ [] ∧ Apart r' ∧
        PlainTail (words r')) ↔ r ≠ [] ∧ Apart r ∧ PlainTail (words r) := by
      simp only [List.append_cancel_left_eq, exists_eq_left']
    rw [only, Option.map_some, Option.bind_some]
    by_cases filled : r = []
    · obtain rfl := filled
      exact iff_of_false (by decide) fun h => h.1 rfl
    by_cases apart : Apart r
    · have high := typedBehind_iff Precision.high.spelling (by decide) (by decide) (by decide)
        clean
      have low := typedBehind_iff Precision.low.spelling (by decide) (by decide) (by decide)
        clean
      rw [afterBlanks?_statement apart filled]
      simp only [Bool.or_eq_true, List.any_cons, List.any_nil, Bool.or_false,
        typedDeclaration_iff clean]
      refine (or_congr_right (or_congr high low)).trans ⟨fun h => ⟨filled, apart, ?_⟩, ?_⟩
      · rcases h with ⟨type, name, h⟩ | (⟨type, name, h⟩ | ⟨w, name, -, h⟩) |
          (⟨type, name, h⟩ | ⟨w, name, -, h⟩)
        · exact ⟨type, name, .inl h⟩
        · exact ⟨type, name, .inr (.inl h)⟩
        · exact ⟨_, name, .inl h⟩
        · exact ⟨type, name, .inr (.inr h)⟩
        · exact ⟨_, name, .inl h⟩
      · rintro ⟨-, -, type, name, h | h | h⟩
        · exact .inl ⟨type, name, h⟩
        · exact .inr (.inl (.inl ⟨type, name, h⟩))
        · exact .inr (.inr (.inl ⟨type, name, h⟩))
    · obtain ⟨c, r, rfl⟩ := List.exists_cons_of_ne_nil filled
      have solid : Unicode.isBlank c ≠ true := fun blank => apart fun d head => by
        cases head
        exact blank
      rw [List.cons_append, afterBlanks?, if_neg solid]
      exact iff_of_false Bool.false_ne_true fun h => apart h.2.1

/-- The words behind some word that ends in the keyword are those of a plain declaration. -/
def PlainAtEnd (ws : List Text) : Prop :=
  ∃ front w tail, ws = front ++ w :: tail ∧ "uniform".toList <:+ w ∧ PlainTail tail

theorem PlainTail.ne_nil {tail : List Text} (h : PlainTail tail) : tail ≠ [] := by
  rintro rfl
  obtain ⟨type, name, h | h | h⟩ := h <;> cases h

/-- A line with one semicolon, at its end, counts as a plain declaration by its words only. -/
theorem isPlainUniform_iff (single : ';' ∉ s) :
    isPlainUniform (s ++ [';']) = true ↔ PlainAtEnd (words s) := by
  have keyword : "uniform".toList ≠ [] := by decide
  have solid : Solid "uniform".toList := by decide
  rw [isPlainUniform, somewhere_iff]
  constructor
  · rintro ⟨before, rest, whole, starts⟩
    obtain ⟨s', rfl, inside⟩ : ∃ s', rest = s' ++ [';'] ∧ s = before ++ s' := by
      rcases List.eq_nil_or_concat rest with rfl | ⟨s', c, rfl⟩
      · exact absurd starts (by decide)
      · rw [List.concat_eq_append, ← List.append_assoc] at whole
        obtain ⟨same, last⟩ := List.append_inj' whole rfl
        exact ⟨s', by rw [List.concat_eq_append, last], same⟩
    subst inside
    have clean : ';' ∉ s' := fun mem => single (List.mem_append_right _ mem)
    obtain ⟨r, rfl, -, apart, plain⟩ := (startsUniform_iff clean).mp starts
    obtain ⟨front, w, words_, suffix⟩ := exists_last_word keyword solid before
    refine ⟨front, w, words r, ?_, suffix, plain⟩
    rw [← List.append_assoc, apart.words_append, words_, List.append_assoc, List.singleton_append]
  · rintro ⟨front, w, tail, all, ⟨start, rfl⟩, plain⟩
    obtain ⟨before, rest, rfl, apart, behind⟩ := exists_of_words_eq all
    have filled : rest ≠ [] := by
      rintro rfl
      exact plain.ne_nil behind.symm
    refine ⟨before ++ start, "uniform".toList ++ rest ++ [';'], by simp, ?_⟩
    refine (startsUniform_iff ?_).mpr ⟨rest, rfl, filled, apart, behind ▸ plain⟩
    simp only [List.mem_append, not_or] at single ⊢
    exact ⟨single.2.1.2, single.2.2⟩

end Recognition

/-- The words of a declaration of uniforms. -/
def declarationWords (precision : Option Precision) (type : Text) (declarators : List Text) :
    List Text :=
  "uniform".toList :: (precision.map Precision.spelling).toList ++ type :: declarators

/-- A line that declares uniforms in one statement: the keyword, a precision perhaps, a type, and
what it declares, of which only the words matter. -/
structure DeclaresUniforms (line : Text) (precision : Option Precision) (type : Text)
    (declarators : List Text) : Prop where
  starts : begins "uniform".toList line = true
  statement : ∃ body, line = body ++ [';'] ∧ ';' ∉ body ∧
    words body = declarationWords precision type declarators
  type_ne : ∀ p : Precision, type ≠ p.spelling
  declares : declarators ≠ []
  unbraced : '}' ∉ line

/-- The target claims no lines by patterns and leaves attributes and varyings as they are. -/
structure Unclaiming (t : Target σ) : Prop where
  uniformLines : ∀ state, t.uniformLines state = none
  blockLines : ∀ state, t.blockLines state = none
  textureLines : ∀ state, t.textureLines state = none
  onAttribute : ∀ line symbols state, (t.onAttribute line symbols state).1 = none
  onVarying : ∀ line isFragment symbols state, (t.onVarying line isFragment symbols state).1 = none

section Lines
variable {t : Target σ} {line type : Text} {precision : Option Precision} {declarators : List Text}
  (isFragment : Bool) (symbols : Symbols)

theorem Unclaiming.declaration_eq (h : Unclaiming t) (starts : begins "uniform".toList line = true)
    (state : σ) :
    t.declaration line state = if isPlainUniform line then .uniform else .block := by
  simp only [declaration, h.uniformLines, h.blockLines, h.textureLines, Option.any_none,
    Bool.false_eq_true, if_false, starts, if_true]

theorem Unclaiming.editInterface_eq (h : Unclaiming t) (s : LineState σ) :
    (t.editInterface isFragment symbols line s).1 = none := by
  have varying (answer : Option Text) (declined : answer = none) (s' : LineState σ) :
      ((if answer.isNone && t.declaresVarying isFragment line s.target then
        ask (t.onVarying line isFragment symbols) else pure answer) s').1 = none := by
    split
    · exact h.onVarying line isFragment symbols s'.target
    · exact declined
  change ((if !isFragment && begins (t.attributeKeyword s.target) line then _ else _ :
    StateM (LineState σ) (Option Text)) s).1 = none
  split
  · exact varying _ (h.onAttribute line symbols s.target) _
  · exact varying none rfl _

theorem Unclaiming.lineCalls_eq (h : Unclaiming t) (starts : begins "uniform".toList line = true)
    (unbraced : '}' ∉ line) (state : σ) :
    ∃ answered, t.lineCalls isFragment symbols line { target := state } =
      if isPlainUniform line then [.uniform] else [.blockStart answered] := by
  let s := (ask (t.onLine line isFragment) { target := state }).2
  let s' := (t.editInterface isFragment symbols line s).2
  have outside : s'.inBlock = false := t.inBlock_editInterface isFragment symbols line s
  have closing (s : LineState σ) : closingCalls line s = [] :=
    if_neg (by simp [unbraced])
  refine ⟨(t.onBlockStart line isFragment s'.target).1.isSome, ?_⟩
  change t.callsBehind isFragment symbols line (t.declaration line s.target)
    (t.editInterface isFragment symbols line s).1 s' = _
  rw [h.editInterface_eq, h.declaration_eq starts]
  simp only [callsBehind, closing, Option.isSome_none, Bool.false_eq_true, if_false,
    List.append_nil]
  split <;> simp only [declarationCalls, outside, Bool.false_eq_true, if_false]

theorem plainAtEnd_cons_iff {ws : List Text} (own : ∀ w ∈ ws, ¬"uniform".toList <:+ w) :
    PlainAtEnd ("uniform".toList :: ws) ↔ PlainTail ws := by
  constructor
  · rintro ⟨front, w, tail, all, suffix, plain⟩
    cases front with
    | nil => exact (List.cons.inj all).2 ▸ plain
    | cons first front =>
      have inside : w ∈ ws := (List.cons.inj all).2 ▸ List.mem_append_right front List.mem_cons_self
      exact absurd suffix (own w inside)
  · exact fun plain => ⟨[], _, ws, rfl, List.suffix_refl _, plain⟩

theorem plainTail_iff (type_ne : ∀ p : Precision, type ≠ p.spelling) (declares : declarators ≠ []) :
    PlainTail ((precision.map Precision.spelling).toList ++ type :: declarators) ↔
      precision ≠ some .medium ∧ declarators.length = 1 := by
  obtain ⟨name, more, rfl⟩ := List.exists_cons_of_ne_nil declares
  cases precision with
  | none => simp [PlainTail, type_ne]
  | some p => cases p <;> simp [PlainTail, Precision.spelling_inj]

/-- A line that declares uniforms, outside of blocks, goes to the hook for uniforms exactly if its
last words are a type and a name, behind the keyword and perhaps a precision other than the medium
one. Else it goes to the hook for the start of blocks, and opens a block if this answers. Unless
a word of its own ends in the keyword, so do exactly the lines that name the medium precision or
have blanks inside of what they declare. -/
theorem editLine_uniforms (h : Unclaiming t)
    (declared : DeclaresUniforms line precision type declarators) (state : σ) :
    let ws := declarationWords precision type declarators
    let edited := (t.watching.editLine isFragment symbols line { target := (state, []) }).2
    (edited.target.2 = [⟨line, [.uniform]⟩] ∧ edited.inBlock = false ↔ PlainAtEnd ws) ∧
      (¬PlainAtEnd ws → ∃ answered, edited.target.2 = [⟨line, [.blockStart answered]⟩] ∧
        edited.inBlock = answered) ∧
      ((∀ w ∈ type :: declarators, ¬"uniform".toList <:+ w) →
        (PlainAtEnd ws ↔ precision ≠ some .medium ∧ declarators.length = 1)) := by
  intro ws edited
  obtain ⟨starts, ⟨body, whole, single, spelled⟩, type_ne, declares, unbraced⟩ := declared
  obtain ⟨answered, calls⟩ := h.lineCalls_eq isFragment symbols starts unbraced state
  have plain : isPlainUniform line = true ↔ PlainAtEnd ws := by
    rw [whole, isPlainUniform_iff single, spelled]
  have watched : edited =
      (t.editLine isFragment symbols line { target := state }).2.watched
        [⟨line, t.lineCalls isFragment symbols line { target := state }⟩] :=
    congrArg Prod.snd (t.editLine_watching isFragment symbols line { target := state } [])
  have visited := t.visited_editLine isFragment symbols line { target := state }
  have flag : edited.inBlock = true ↔
      HookCall.blockStart true ∈ t.lineCalls isFragment symbols line { target := state } := by
    rw [watched]
    exact visited.after_iff.trans (by simp [Visit.Opens, unbraced])
  have visits : edited.target.2 =
      [⟨line, t.lineCalls isFragment symbols line { target := state }⟩] := by rw [watched]; rfl
  rw [calls] at flag visits
  have words_ (own : ∀ w ∈ type :: declarators, ¬"uniform".toList <:+ w) :
      PlainAtEnd ws ↔ precision ≠ some .medium ∧ declarators.length = 1 := by
    refine (plainAtEnd_cons_iff fun w mem => ?_).trans (plainTail_iff type_ne declares)
    rcases List.mem_append.mp mem with mem | mem
    · obtain ⟨p, -, rfl⟩ := Option.map_eq_some_iff.mp (Option.mem_toList.mp mem)
      cases p <;> decide
    · exact own w mem
  by_cases ends : PlainAtEnd ws
  · rw [if_pos (plain.mpr ends)] at flag visits
    have outside : edited.inBlock = false := Bool.not_eq_true _ ▸ flag.not.mpr (by decide)
    exact ⟨iff_of_true ⟨visits, outside⟩ ends, fun other => absurd ends other, words_⟩
  · rw [if_neg (plain.not.mpr ends)] at flag visits
    have opened : edited.inBlock = answered := Bool.eq_iff_iff.mpr (flag.trans (by simp [eq_comm]))
    refine ⟨iff_of_false (fun h => ?_) ends, fun _ => ⟨answered, visits, opened⟩, words_⟩
    rw [visits] at h
    cases h.1

end Lines

/-- A target that answers on uniforms and on blocks, and on nothing else. -/
def tagging : Target Unit where
  onUniform line _ _ state := (some ("U:".toList ++ line), state)
  onBlockStart line _ state := (some ("B:".toList ++ line), state)
  onBlockEnd line _ state := (some ("E:".toList ++ line), state)

theorem unclaiming_tagging : Unclaiming tagging :=
  ⟨fun _ => rfl, fun _ => rfl, fun _ => rfl, fun _ _ _ => rfl, fun _ _ _ _ => rfl⟩

theorem editLine_uniforms_low :
    let line := "uniform  lowp mat4\tworlds[4] ;".toList
    let edited := (tagging.watching.editLine true ∅ line { target := ((), []) }).2
    DeclaresUniforms line (some .low) "mat4".toList ["worlds[4]".toList] ∧
      edited.target.2 = [⟨line, [.uniform]⟩] ∧ edited.inBlock = false := by
  intro line edited
  have declared : DeclaresUniforms line (some .low) "mat4".toList ["worlds[4]".toList] :=
    ⟨by decide, ⟨"uniform  lowp mat4\tworlds[4] ".toList, by decide, by decide, by decide⟩,
      fun p => by cases p <;> decide, by decide, by decide⟩
  have calls := editLine_uniforms true ∅ unclaiming_tagging declared ()
  have plain := (calls.2.2 (by decide)).mpr ⟨by decide, rfl⟩
  exact ⟨declared, calls.1.mpr plain⟩

/-- The medium precision, and a blank behind a comma: both open a block, and the declaration on the
next line is not seen any more. -/
theorem editLine_uniforms_ne :
    let medium := "uniform mediump float a;".toList
    let several := "uniform float a, b;".toList
    let later := "uniform float c;".toList
    let edit (line : Text) (s : LineState (Unit × List Visit)) :=
      (tagging.watching.editLine true ∅ line s).2
    let afterMedium := edit later (edit medium { target := ((), []) })
    let afterSeveral := edit later (edit several { target := ((), []) })
    DeclaresUniforms medium (some .medium) "float".toList ["a".toList] ∧
      DeclaresUniforms several none "float".toList ["a,".toList, "b".toList] ∧
      afterMedium.target.2 = [⟨medium, [.blockStart true]⟩, ⟨later, []⟩] ∧
      afterMedium.inBlock = true ∧
      afterSeveral.target.2 = [⟨several, [.blockStart true]⟩, ⟨later, []⟩] ∧
      afterSeveral.inBlock = true := by
  refine ⟨?_, ?_, by decide +kernel⟩
  · exact ⟨by decide, ⟨"uniform mediump float a".toList, by decide, by decide, by decide⟩,
      fun p => by cases p <;> decide, by decide, by decide⟩
  · exact ⟨by decide, ⟨"uniform float a, b".toList, by decide, by decide, by decide⟩,
      fun p => by cases p <;> decide, by decide, by decide⟩

end ShaderPrep.Target
