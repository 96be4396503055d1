import ShaderPrep.Proofs.Guard.Operand

/-! The shunting yard on conditions of the grammar. Reading a text of a level puts a part of its
reverse Polish form out and leaves junctions waiting that bind at least as strongly as the level;
what was waiting before stays underneath. -/
namespace ShaderPrep.Guard

namespace Rpn.Yard

def read (y : Yard) (s : Text) : Yard := (Lexeme.scan s).foldl step y

theorem step_of_text {lexeme : Lexeme} (text : lexeme.isStructural = false) (y : Yard) :
    y.step lexeme = { y with pending := y.pending ++ lexeme.spelling } := by
  cases lexeme with
  | and => exact absurd text (by decide)
  | or => exact absurd text (by decide)
  | opening => exact absurd text (by decide)
  | closing => exact absurd text (by decide)
  | text run => rfl
  | ampersand => rfl
  | bar => rfl

/-- Reading `s` takes the yard from one state to the other, whatever text follows. -/
def Reads (y : Yard) (s : Text) (y' : Yard) : Prop := ∀ t, read y (s ++ t) = read y' t

theorem Reads.trans {y y' y'' : Yard} {s t : Text} (first : Reads y s y') (last : Reads y' t y'') :
    Reads y (s ++ t) y'' := by
  intro r
  rw [List.append_assoc, first, last]

theorem Reads.read_eq {y y' : Yard} {s : Text} (h : Reads y s y') : read y s = y' := by
  rw [← List.append_nil s, h]
  rfl

theorem foldl_consText (y : Yard) (c : Char) (lexemes : List Lexeme) :
    (Lexeme.consText c lexemes).foldl step y =
      lexemes.foldl step { y with pending := y.pending ++ [c] } := by
  unfold Lexeme.consText
  split
  · simp [step, Lexeme.spelling]
  · simp [step, Lexeme.spelling]

theorem scan_cons_of_plain {c : Char} (plain : isPlain c = true) (s : Text) :
    Lexeme.scan (c :: s) = Lexeme.consText c (Lexeme.scan s) := by
  have other : c ≠ '&' ∧ c ≠ '|' ∧ c ≠ '(' ∧ c ≠ ')' := by
    refine ⟨?_, ?_, ?_, ?_⟩ <;> rintro rfl <;> exact absurd plain (by decide)
  rw [Lexeme.scan] <;> grind

theorem reads_plain {u : Text} (plain : ∀ c ∈ u, isPlain c = true) (y : Yard) :
    Reads y u { y with pending := y.pending ++ u } := by
  intro t
  induction u generalizing y with
  | nil => simp
  | cons c u ih =>
    rw [List.cons_append, read, scan_cons_of_plain (plain c List.mem_cons_self), foldl_consText]
    have rest := ih (fun d mem => plain d (List.mem_cons_of_mem c mem))
      { y with pending := y.pending ++ [c] }
    simpa [read] using rest

theorem reads_opening (y : Yard) :
    Reads y ['('] { y with waiting := .opening :: y.waiting, pending := [] } := by
  intro t
  rw [List.singleton_append, read, Lexeme.scan]
  rfl

theorem reads_closing (y : Yard) : Reads y [')'] (y.step .closing) := by
  intro t
  rw [List.singleton_append, read, Lexeme.scan]
  rfl

theorem reads_sign (j : Junction) (y : Yard) : Reads y j.sign (y.join j) := by
  intro t
  cases j with
  | and =>
    change read y ('&' :: '&' :: t) = _
    rw [read, Lexeme.scan]
    rfl
  | or =>
    change read y ('|' :: '|' :: t) = _
    rw [read, Lexeme.scan]
    rfl

section Waiting
variable {strength : Nat} {js : List Junction} {waiting : List Waiting}

/-- No waiting junction binds strongly enough to be let go first. -/
def Still (strength : Nat) (waiting : List Waiting) : Prop :=
  release strength waiting = ([], waiting)

theorem Still.mono {strength' : Nat} (h : Still strength waiting) (le : strength ≤ strength') :
    Still strength' waiting := by
  cases waiting with
  | nil => rfl
  | cons w waiting =>
    cases w with
    | opening => rfl
    | junction j =>
      have weak : ¬strength ≤ j.strength := by
        intro strong
        rw [Still, release, if_pos strong] at h
        exact List.cons_ne_nil _ _ (congrArg Prod.fst h)
      rw [Still, release, if_neg (by omega)]

theorem still_junction (j : Junction) (waiting : List Waiting) :
    Still (j.strength + 1) (.junction j :: waiting) := by
  rw [Still, release, if_neg (by omega)]

theorem release_append (strong : ∀ j ∈ js, strength ≤ j.strength) (still : Still strength waiting) :
    release strength (js.map .junction ++ waiting) = (js.map .junction, waiting) := by
  induction js with
  | nil => exact still
  | cons j js ih =>
    have rest := ih fun k mem => strong k (List.mem_cons_of_mem j mem)
    rw [List.map_cons, List.cons_append, release, if_pos (strong j List.mem_cons_self), rest]
    rfl

theorem close_append (js : List Junction) (waiting : List Waiting) :
    close (js.map .junction ++ .opening :: waiting) = (js.map .junction, waiting) := by
  induction js with
  | nil => rfl
  | cons j js ih =>
    rw [List.map_cons, List.cons_append, close, ih]
    rfl

theorem drain_map (js : List Junction) : drain (js.map .junction) = js.map .junction := by
  induction js with
  | nil => rfl
  | cons j js ih => rw [List.map_cons, drain, ih, List.map_cons]

end Waiting

/-- The state that a text leaves behind which put `out` out and left `js` waiting. The last
operand may still be pending, with more blanks to come. -/
structure Leaves (y : Yard) (s : Text) (out : List Rpn) (js : List Junction) (y' : Yard) :
    Prop where
  reads : Reads y s y'
  waiting : y'.waiting = js.map .junction ++ y.waiting
  output : ∀ b, Blanks b → y'.output ++ operands (y'.pending ++ b) = y.output ++ out

theorem leaves_test {s : Text} {g : Guard} (h : Test s g) {y : Yard} (blank : Blanks y.pending) :
    Leaves y s [.operand s] [] { y with pending := y.pending ++ s } := by
  refine ⟨reads_plain h.plain y, rfl, fun b hb => ?_⟩
  have operand : operands (y.pending ++ s ++ b) = [.operand s] := by
    rw [operands, List.append_assoc, Text.trim_append blank.isBlank h.tight hb.isBlank]
    obtain ⟨c, t, rfl⟩ := List.exists_cons_of_ne_nil h.tight.ne_nil
    rfl
  exact congrArg (y.output ++ ·) operand

/-- What is within parentheses goes out whole. -/
theorem Leaves.group {y y' : Yard} {s a b : Text} {out : List Rpn} {js : List Junction}
    (ha : Blanks a) (hb : Blanks b)
    (h : Leaves { y with waiting := .opening :: y.waiting, pending := a } s out js y') :
    Leaves y ('(' :: (a ++ (s ++ (b ++ [')'])))) (out ++ js.map .junction) []
      ⟨y.output ++ (out ++ js.map .junction), y.waiting, []⟩ := by
  have inside : Reads y ('(' :: a)
      { y with waiting := .opening :: y.waiting, pending := a } :=
    (reads_opening y).trans (reads_plain ha.plain _)
  have outside : Reads y' (b ++ [')']) ⟨y.output ++ (out ++ js.map .junction), y.waiting, []⟩ := by
    have closing := (reads_plain hb.plain y').trans (reads_closing _)
    have closed : step { y' with pending := y'.pending ++ b } .closing =
        ⟨y.output ++ (out ++ js.map .junction), y.waiting, []⟩ := by
      simp only [step, h.waiting, close_append]
      rw [← List.append_assoc, h.output b hb, List.append_assoc]
    rwa [closed] at closing
  refine ⟨?_, rfl, fun b hb => ?_⟩
  · have reads := (inside.trans h.reads).trans outside
    simpa using reads
  · have none : operands ([] ++ b) = [] := by
      rw [operands, List.nil_append, Text.IsBlank.trim_eq_nil hb.isBlank]
    rw [none, List.append_nil]

/-- A junction lets all go that its first operand left waiting, and waits itself. -/
theorem Leaves.junction {j : Junction} {y y₁ y₂ : Yard} {s t a b : Text} {out₁ out₂ : List Rpn}
    {js₁ js₂ : List Junction} (ha : Blanks a) (hb : Blanks b) (still : Still j.strength y.waiting)
    (first : Leaves y s out₁ js₁ y₁) (strong : ∀ k ∈ js₁, j.strength ≤ k.strength)
    (last : Leaves ⟨y.output ++ (out₁ ++ js₁.map .junction), .junction j :: y.waiting, b⟩ t
      out₂ js₂ y₂) :
    Leaves y (s ++ (a ++ (j.sign ++ (b ++ t)))) (out₁ ++ js₁.map .junction ++ out₂) (js₂ ++ [j])
      y₂ := by
  have between : Reads y₁ (a ++ (j.sign ++ b))
      ⟨y.output ++ (out₁ ++ js₁.map .junction), .junction j :: y.waiting, b⟩ := by
    -- The sign releases what the first operand left, and nothing that waited before it.
    have joined : join { y₁ with pending := y₁.pending ++ a } j =
        ⟨y.output ++ (out₁ ++ js₁.map .junction), .junction j :: y.waiting, []⟩ := by
      simp only [join, first.waiting, release_append strong still]
      rw [← List.append_assoc, first.output a ha, List.append_assoc]
    have sign := reads_sign j { y₁ with pending := y₁.pending ++ a }
    rw [joined] at sign
    exact (reads_plain ha.plain y₁).trans (sign.trans (reads_plain hb.plain _))
  refine ⟨?_, ?_, fun c hc => ?_⟩
  · have reads := first.reads.trans (between.trans last.reads)
    simpa using reads
  · rw [last.waiting]
    simp
  · rw [last.output c hc]
    simp

end Rpn.Yard

/-- Reducing the reverse Polish form puts one part on top, which makes the guard. -/
def Reduces (rpn : List Rpn) (g : Guard) : Prop :=
  ∀ r : Reduction, ∃ part : Part, part.toGuard = g ∧
    rpn.foldl Reduction.step r = { r with parts := part :: r.parts }

theorem Test.reduces {s : Text} {g : Guard} (h : Test s g) : Reduces [.operand s] g :=
  fun _ => ⟨.operand s, h.guard_eq, rfl⟩

theorem Reduces.junction {left right : List Rpn} {f g : Guard} (first : Reduces left f)
    (last : Reduces right g) (j : Junction) :
    Reduces (left ++ right ++ [.junction j]) (ofJunction j f g) := by
  intro r
  obtain ⟨p, rfl, reduced⟩ := first r
  obtain ⟨q, rfl, reduced'⟩ := last { r with parts := p :: r.parts }
  refine ⟨.guard (ofJunction j p.toGuard q.toGuard), rfl, ?_⟩
  rw [List.foldl_append, List.foldl_append, reduced, reduced']
  rfl

/-- How strongly at least the junctions of a text of the level bind. -/
def Level.strength : Level → Nat
  | condition => 2
  | term => 3
  | factor => 4

/-- What the yard makes of a text of a level, whatever its state: the parts `out` and `js` form
the reverse Polish form of the guard. -/
structure Shunts (level : Level) (s : Text) (g : Guard) (out : List Rpn) (js : List Junction) :
    Prop where
  reduces : Reduces (out ++ js.map .junction) g
  strong : ∀ j ∈ js, level.strength ≤ j.strength
  leaves : ∀ y : Rpn.Yard, Blanks y.pending → Rpn.Yard.Still level.strength y.waiting →
    ∃ y', Rpn.Yard.Leaves y s out js y'

theorem Test.shunts {s : Text} {g : Guard} (h : Test s g) : Shunts .factor s g [.operand s] [] where
  reduces := h.reduces
  strong := by simp
  leaves _ blank _ := ⟨_, Rpn.Yard.leaves_test h blank⟩

theorem Shunts.group {s a b : Text} {g : Guard} {out : List Rpn} {js : List Junction}
    (h : Shunts .condition s g out js) (ha : Blanks a) (hb : Blanks b) :
    Shunts .factor ('(' :: (a ++ (s ++ (b ++ [')'])))) g (out ++ js.map .junction) [] where
  reduces := by
    rw [List.map_nil, List.append_nil]
    exact h.reduces
  strong := by simp
  leaves y _ _ := by
    obtain ⟨y', leaves⟩ := h.leaves ⟨y.output, .opening :: y.waiting, a⟩ ha rfl
    exact ⟨_, leaves.group ha hb⟩

theorem Shunts.mono {level level' : Level} {s : Text} {g : Guard} {out : List Rpn}
    {js : List Junction} (h : Shunts level s g out js) (le : level'.strength ≤ level.strength) :
    Shunts level' s g out js where
  reduces := h.reduces
  strong j mem := Nat.le_trans le (h.strong j mem)
  leaves y blank still := h.leaves y blank (still.mono le)

theorem Shunts.junction {level level' : Level} {j : Junction} {s t a b : Text} {f g : Guard}
    {out₁ out₂ : List Rpn} {js₁ js₂ : List Junction} (first : Shunts level s f out₁ js₁)
    (last : Shunts level' t g out₂ js₂) (ha : Blanks a) (hb : Blanks b)
    (own : level.strength = j.strength) (next : level'.strength = j.strength + 1) :
    Shunts level (s ++ (a ++ (j.sign ++ (b ++ t)))) (ofJunction j f g)
      (out₁ ++ js₁.map .junction ++ out₂) (js₂ ++ [j]) where
  reduces := by
    have reduces := first.reduces.junction last.reduces j
    simpa using reduces
  strong k mem := by
    rcases List.mem_append.mp mem with mem | mem
    · have strong := last.strong k mem
      omega
    · obtain rfl := List.mem_singleton.mp mem
      exact Nat.le_of_eq own
  leaves y blank still := by
    obtain ⟨y₁, leaves⟩ := first.leaves y blank still
    have still' := Rpn.Yard.still_junction j y.waiting
    rw [← next] at still'
    obtain ⟨y₂, leaves'⟩ := last.leaves
      ⟨y.output ++ (out₁ ++ js₁.map .junction), .junction j :: y.waiting, b⟩ hb still'
    rw [own] at still
    exact ⟨y₂, leaves.junction ha hb still (fun k mem => own ▸ first.strong k mem) leaves'⟩

theorem Spells.shunts {level : Level} {s : Text} {f : Formula}
    (h : Spells BracketCall level s f) : ∃ out js, Shunts level s f.guard out js := by
  induction h with
  | defined call => exact ⟨_, _, call.test.shunts⟩
  | undefined call ha => exact ⟨_, _, (call.test_not ha.isBlank).shunts⟩
  | present name => exact ⟨_, _, name.isWord.side.test.shunts⟩
  | compare hn hl ha hb =>
    exact ⟨_, _, (test_compare hn.isWord.side hl.side ha.isBlank hb.isBlank _).shunts⟩
  | group _ ha hb ih =>
    obtain ⟨out, js, shunts⟩ := ih
    exact ⟨_, _, shunts.group ha hb⟩
  | factor _ ih =>
    obtain ⟨out, js, shunts⟩ := ih
    exact ⟨_, _, shunts.mono (by decide)⟩
  | term _ ih =>
    obtain ⟨out, js, shunts⟩ := ih
    exact ⟨_, _, shunts.mono (by decide)⟩
  | and _ _ ha hb ihs iht =>
    obtain ⟨out₁, js₁, first⟩ := ihs
    obtain ⟨out₂, js₂, last⟩ := iht
    exact ⟨_, _, Shunts.junction (j := .and) first last ha hb rfl rfl⟩
  | or _ _ ha hb ihs iht =>
    obtain ⟨out₁, js₁, first⟩ := ihs
    obtain ⟨out₂, js₂, last⟩ := iht
    exact ⟨_, _, Shunts.junction (j := .or) first last ha hb rfl rfl⟩

end ShaderPrep.Guard
