import ShaderPrep.Guard.Reader
import ShaderPrep.Proofs.Guard.Characters

/-! Calls of `defined` within conditions. Rewriting their parentheses touches nothing else of a
condition, since a call ends where its name does; and each operand with its parentheses back is
read as the test that it spells. -/
namespace ShaderPrep.Guard

/-- No parenthesis opens in the text before a junction or a closing parenthesis. -/
def Settled (t : Text) : Prop := (t.dropWhile isPlain).head? ≠ some '('

theorem Settled.append {u t : Text} (plain : ∀ c ∈ u, isPlain c = true) (h : Settled t) :
    Settled (u ++ t) := by
  rwa [Settled, List.dropWhile_append_of_pos plain]

namespace Call

section Match
variable {opening closing opening' closing' : Char}

/-- The argument of a call reaches up to the first closing mark behind its first character. -/
theorem argument?_eq_some {s argument : Text} :
    argument? closing s = some argument ↔ ∃ rest, s = argument ++ closing :: rest ∧
      argument ≠ [] ∧ '\n' ∉ argument ∧ closing ∉ argument.tail := by
  constructor
  · intro h
    cases s with
    | nil => cases h
    | cons c s =>
      simp only [argument?] at h
      split at h
      · cases h
      · next line =>
        let inner (d : Char) : Bool := d != closing && d != '\n'
        have whole : s.takeWhile inner ++ s.dropWhile inner = s := List.takeWhile_append_dropWhile
        have inside : ∀ d ∈ s.takeWhile inner, inner d = true :=
          List.all_eq_true.mp List.all_takeWhile
        simp only [inner, Bool.and_eq_true, bne_iff_ne] at inside
        split at h
        · cases h
        · next d rest dropped =>
          split at h
          · next same =>
            obtain rfl := Option.some.inj h
            rw [dropped, same] at whole
            refine ⟨rest, by rw [List.cons_append, whole], List.cons_ne_nil _ _, ?_, ?_⟩
            · exact List.not_mem_cons_of_ne_of_not_mem (Ne.symm line)
                fun mem => (inside _ mem).2 rfl
            · exact fun mem => (inside _ mem).1 rfl
          · cases h
  · rintro ⟨rest, rfl, filled, line, inner⟩
    obtain ⟨c, s, rfl⟩ := List.exists_cons_of_ne_nil filled
    simp only [List.mem_cons, not_or, List.tail_cons] at line inner
    have inside : ∀ d ∈ s, (d != closing && d != '\n') = true := by
      intro d mem
      simp only [Bool.and_eq_true, bne_iff_ne]
      exact ⟨fun e => inner (e ▸ mem), fun e => line.2 (e ▸ mem)⟩
    have taken : (s ++ closing :: rest).takeWhile (fun d => d != closing && d != '\n') = s := by
      rw [List.takeWhile_append_of_pos inside]
      simp
    have dropped : (s ++ closing :: rest).dropWhile (fun d => d != closing && d != '\n') =
        closing :: rest := by
      rw [List.dropWhile_append_of_pos inside]
      simp
    simp only [argument?, List.cons_append, if_neg (Ne.symm line.1), taken, dropped, if_true]

/-- A call at the start of a text has its bracket behind blanks only. -/
theorem match?_eq_some (bracket : Unicode.isBlank opening = false) {s argument : Text}
    {width : Nat} :
    match? opening closing s = some (argument, width) ↔
      ∃ a t, s = "defined".toList ++ (a ++ opening :: t) ∧ a.IsBlank ∧
        argument? closing t = some argument ∧
        width = "defined".length + a.length + argument.length + 2 := by
  simp only [match?, Option.bind_eq_bind, Option.bind_eq_some_iff]
  constructor
  · rintro ⟨behind, word, t, opens, _, found, same⟩
    obtain ⟨rfl, rfl⟩ := Prod.mk.inj (Option.some.inj same)
    refine ⟨behind.takeWhile Unicode.isBlank, t, ?_, List.all_eq_true.mp List.all_takeWhile,
      found, rfl⟩
    rw [Text.after?_eq_some.mp word, ← List.singleton_append, ← Text.after?_eq_some.mp opens,
      List.takeWhile_append_dropWhile]
  · rintro ⟨a, t, rfl, ha, found, rfl⟩
    have blanks : (a ++ opening :: t).takeWhile Unicode.isBlank = a := by
      rw [List.takeWhile_append_of_pos ha]
      simp [bracket]
    have behind : (a ++ opening :: t).dropWhile Unicode.isBlank = [opening] ++ t := by
      rw [List.dropWhile_append_of_pos ha]
      simp [bracket]
    refine ⟨_, Text.after?_append _ _, t, ?_, argument, found, by rw [blanks]; rfl⟩
    rw [behind, Text.after?_append]

/-- A call at the start of a text is turned to the other brackets, and blanks in front of its
bracket go. -/
theorem substitute_call {a argument : Text} (ha : a.IsBlank) (filled : argument ≠ [])
    (line : '\n' ∉ argument) (inner : closing ∉ argument)
    (bracket : Unicode.isBlank opening = false) (t : Text) :
    Text.substitute (rule opening closing opening' closing')
        ("defined".toList ++ (a ++ opening :: (argument ++ [closing])) ++ t) =
      "defined".toList ++ opening' :: (argument ++ [closing']) ++
        Text.substitute (rule opening closing opening' closing') t := by
  have found : match? opening closing
      ("defined".toList ++ (a ++ opening :: (argument ++ [closing])) ++ t) =
        some (argument, "defined".length + a.length + argument.length + 2) := by
    have first : argument? closing (argument ++ closing :: t) = some argument :=
      argument?_eq_some.mpr ⟨t, rfl, filled, line, fun mem => inner (List.mem_of_mem_tail mem)⟩
    exact (match?_eq_some bracket).mpr ⟨a, _, by simp, ha, first, rfl⟩
  have width : ("defined".toList ++ (a ++ opening :: (argument ++ [closing]))).length =
      "defined".length + a.length + argument.length + 2 := by
    simp only [List.length_append, List.length_cons, List.length_nil, String.length_toList]
    omega
  refine Text.substitute_append_of_some (by simp) ?_
  rw [rule, found, width]
  simp

/-- A text goes through unchanged if no call that starts in it has its argument closed. -/
theorem substitute_unmatched (bracket : Unicode.isBlank opening = false) {u t : Text}
    (unmatched : ∀ v a r : Text, v ≠ [] → v <:+ u →
      v ++ t = "defined".toList ++ (a ++ opening :: r) → a.IsBlank → argument? closing r = none) :
    Text.substitute (rule opening closing opening' closing') (u ++ t) =
      u ++ Text.substitute (rule opening closing opening' closing') t := by
  refine Text.substitute_append_of_none fun v filled suffix => ?_
  have none : match? opening closing (v ++ t) = none := by
    refine Option.eq_none_iff_forall_ne_some.mpr fun found matched => ?_
    obtain ⟨a, r, same, blank, closed, -⟩ := (match?_eq_some bracket).mp matched
    rw [unmatched v a r filled suffix same blank] at closed
    cases closed
  simp [rule, none]

theorem substitute_skip (bracket : Unicode.isBlank opening = false) {u : Text} (skip : 'd' ∉ u)
    (t : Text) : Text.substitute (rule opening closing opening' closing') (u ++ t) =
      u ++ Text.substitute (rule opening closing opening' closing') t := by
  refine substitute_unmatched bracket fun v a r filled suffix same _ => ?_
  obtain ⟨c, v, rfl⟩ := List.exists_cons_of_ne_nil filled
  obtain rfl : c = 'd' := (List.cons.inj same).1
  exact absurd (suffix.subset List.mem_cons_self) skip

end Match

/-- Plain text goes through unchanged where no parenthesis follows it. -/
theorem protect_plain {u t : Text} (plain : ∀ c ∈ u, isPlain c = true) (settled : Settled t) :
    protect (u ++ t) = u ++ protect t := by
  refine substitute_unmatched (by decide) fun v a r _ suffix same blank => ?_
  have word : ∀ c ∈ "defined".toList ++ a, isPlain c = true :=
    List.forall_mem_append.mpr ⟨plain_word, plain_of_isBlank blank⟩
  have dropped := congrArg (List.dropWhile isPlain) same
  rw [← List.append_assoc, List.dropWhile_append_of_pos fun c mem => plain c (suffix.subset mem),
    List.dropWhile_append_of_pos word] at dropped
  exact absurd (by rw [dropped]; rfl) settled

end Call

/-- What stands between the brackets of a call, of either kind: plain text on one line. -/
structure Argument (argument name : Text) : Prop where
  trim : argument.trim = name
  filled : argument ≠ []
  plain : ∀ c ∈ argument, isPlain c = true
  line : '\n' ∉ argument
  square : ']' ∉ argument

/-- A word among blanks, all on one line, is the argument of a call. -/
theorem IsWord.argument {s b c : Text} (h : IsWord s) (hb : b.IsBlank) (hc : c.IsBlank)
    (line : '\n' ∉ b ++ (s ++ c)) : Argument (b ++ (s ++ c)) s where
  trim := Text.trim_append hb h.tight hc
  filled := by simp [h.1]
  plain := plain_among hb h.plain hc
  line := line
  square := by
    simp [hb.not_mem (c := ']') (by decide), h.not_mem (c := ']') (by decide),
      hc.not_mem (c := ']') (by decide)]

theorem IsWord.argument_self {s : Text} (h : IsWord s) : Argument s s := by
  have line : '\n' ∉ [] ++ (s ++ []) := by simpa using h.not_mem (by decide)
  have argument := h.argument (List.forall_mem_nil _) (List.forall_mem_nil _) line
  simpa using argument

/-- A call whose brackets are square. -/
inductive BracketCall : Text → Text → Prop
  | mk : Argument argument name →
      BracketCall ("defined".toList ++ ('[' :: (argument ++ [']']))) name

/-- A call is protected whatever follows it. -/
theorem Argument.protect {argument name a : Text} (h : Argument argument name) (ha : a.IsBlank)
    (t : Text) :
    Call.protect ("defined".toList ++ (a ++ '(' :: (argument ++ [')'])) ++ t) =
      "defined".toList ++ ('[' :: (argument ++ [']'])) ++ Call.protect t :=
  have inner : ')' ∉ argument := fun mem => absurd (h.plain ')' mem) (by decide)
  Call.substitute_call ha h.filled h.line inner (by decide) t

theorem protect_spacedCall {s name : Text} (h : SpacedCall s name) :
    ∃ s', BracketCall s' name ∧ ∀ t, Call.protect (s ++ t) = s' ++ Call.protect t := by
  obtain @⟨name, a, b, c, hn, ha, hb, hc⟩ := h
  have line : '\n' ∉ b ++ (name ++ c) := by
    simp [hb.not_mem (d := '\n') (by decide) (by decide), hn.not_mem (d := '\n') (by decide),
      hc.not_mem (d := '\n') (by decide) (by decide)]
  have argument := hn.isWord.argument hb.isBlank hc.isBlank line
  refine ⟨_, .mk argument, fun t => ?_⟩
  have turned := argument.protect ha.isBlank t
  simpa only [List.append_assoc] using turned

theorem protect_skip {u : Text} (h : 'd' ∉ u) (t : Text) :
    Call.protect (u ++ t) = u ++ Call.protect t :=
  Call.substitute_skip (by decide) h t

theorem protect_eq_self {s : Text} (h : 'd' ∉ s) : Call.protect s = s := by
  have same := protect_skip h []
  rwa [show Call.protect [] = [] from rfl, List.append_nil] at same

/-- Two conditions that a junction separates are protected on their own. -/
theorem protect_junction {s s' u u' a b t : Text} {x : Char} (sign : x = '&' ∨ x = '|')
    (ha : Blanks a) (hb : Blanks b)
    (first : ∀ t, Settled t → Call.protect (s ++ t) = s' ++ Call.protect t)
    (last : ∀ t, Settled t → Call.protect (u ++ t) = u' ++ Call.protect t) (settled : Settled t) :
    Call.protect (s ++ (a ++ (x :: x :: (b ++ u))) ++ t) =
      s' ++ (a ++ (x :: x :: (b ++ u'))) ++ Call.protect t := by
  have between : 'd' ∉ a ++ (x :: x :: b) := by
    have other : x ≠ 'd' := by rcases sign with rfl | rfl <;> decide
    simp [ha.not_mem (d := 'd') (by decide) (by decide), other.symm,
      hb.not_mem (d := 'd') (by decide) (by decide)]
  have stop : Settled ((a ++ (x :: x :: b)) ++ (u ++ t)) := by
    rw [List.append_assoc]
    refine Settled.append ha.plain ?_
    rcases sign with rfl | rfl <;> simp [Settled, isPlain]
  calc Call.protect (s ++ (a ++ (x :: x :: (b ++ u))) ++ t)
      = Call.protect (s ++ ((a ++ (x :: x :: b)) ++ (u ++ t))) := by simp
    _ = s' ++ ((a ++ (x :: x :: b)) ++ (u' ++ Call.protect t)) := by
        rw [first _ stop, protect_skip between, last t settled]
    _ = s' ++ (a ++ (x :: x :: (b ++ u'))) ++ Call.protect t := by simp

/-- Whatever follows a group, its own bracket settles the condition inside. -/
theorem protect_group {s s' a b : Text} (ha : Blanks a) (hb : Blanks b)
    (inner : ∀ t, Settled t → Call.protect (s ++ t) = s' ++ Call.protect t) (t : Text) :
    Call.protect ('(' :: (a ++ (s ++ (b ++ [')']))) ++ t) =
      '(' :: (a ++ (s' ++ (b ++ [')']))) ++ Call.protect t := by
  have first : 'd' ∉ '(' :: a := by simp [ha.not_mem (d := 'd') (by decide) (by decide)]
  have last : 'd' ∉ b ++ [')'] := by simp [hb.not_mem (d := 'd') (by decide) (by decide)]
  have settled : Settled ((b ++ [')']) ++ t) := by
    rw [List.append_assoc]
    exact Settled.append hb.plain (by simp [Settled, isPlain])
  calc Call.protect ('(' :: (a ++ (s ++ (b ++ [')']))) ++ t)
      = Call.protect (('(' :: a) ++ (s ++ ((b ++ [')']) ++ t))) := by simp
    _ = ('(' :: a) ++ (s' ++ ((b ++ [')']) ++ Call.protect t)) := by
        rw [protect_skip first, inner _ settled, protect_skip last]
    _ = '(' :: (a ++ (s' ++ (b ++ [')']))) ++ Call.protect t := by simp

/-- Protecting the calls of a condition gives a condition of the same formula with calls in
square brackets, whatever settled text follows. -/
theorem Spells.protect {level : Level} {s : Text} {f : Formula} (h : Spells SpacedCall level s f) :
    ∃ s', Spells BracketCall level s' f ∧
      ∀ t, Settled t → Call.protect (s ++ t) = s' ++ Call.protect t := by
  induction h with
  | defined call =>
    obtain ⟨s', call', turned⟩ := protect_spacedCall call
    exact ⟨s', .defined call', fun t _ => turned t⟩
  | @undefined s name a call ha =>
    obtain ⟨s', call', turned⟩ := protect_spacedCall call
    refine ⟨_, .undefined call' ha, fun t _ => ?_⟩
    have first : 'd' ∉ '!' :: a := by
      simp [ha.not_mem (d := 'd') (by decide) (by decide)]
    rw [← List.cons_append, List.append_assoc, protect_skip first, turned, ← List.append_assoc,
      List.cons_append]
  | present name =>
    exact ⟨_, .present name, fun t settled => Call.protect_plain name.isWord.plain settled⟩
  | @compare name literal a b comparison hn hl ha hb =>
    have plain := plain_compare hn.isWord.plain hl.plain ha.isBlank hb.isBlank comparison
    exact ⟨_, .compare hn hl ha hb, fun t settled => Call.protect_plain plain settled⟩
  | @group s f a b _ ha hb ih =>
    obtain ⟨s', spelled, turned⟩ := ih
    exact ⟨_, .group spelled ha hb, fun t _ => protect_group ha hb turned t⟩
  | factor _ ih =>
    obtain ⟨s', spelled, turned⟩ := ih
    exact ⟨s', .factor spelled, turned⟩
  | term _ ih =>
    obtain ⟨s', spelled, turned⟩ := ih
    exact ⟨s', .term spelled, turned⟩
  | and _ _ ha hb ihs iht =>
    obtain ⟨s', spelled, first⟩ := ihs
    obtain ⟨t', spelled', last⟩ := iht
    exact ⟨_, .and spelled spelled' ha hb,
      fun _ settled => protect_junction (.inl rfl) ha hb first last settled⟩
  | or _ _ ha hb ihs iht =>
    obtain ⟨s', spelled, first⟩ := ihs
    obtain ⟨t', spelled', last⟩ := iht
    exact ⟨_, .or spelled spelled' ha hb,
      fun _ settled => protect_junction (.inr rfl) ha hb first last settled⟩

end ShaderPrep.Guard
