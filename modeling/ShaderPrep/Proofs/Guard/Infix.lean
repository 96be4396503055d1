import Mathlib.Data.List.Forall2
import ShaderPrep.Proofs.Guard.Printing

/-! The reverse Polish form written with its operators between their operands again. The text that
comes about and the guard that is made of the form grow on two stacks which skip the same
junctions, so that reading the text makes the guard. -/
namespace ShaderPrep.Guard

namespace Call

/-- Plain text goes through unchanged where no square bracket is within reach. -/
theorem restore_plain {u t : Text} (plain : ∀ c ∈ u, isPlain c = true) (square : '[' ∉ u)
    (next : '[' ∉ t.takeWhile isPlain) : restore (u ++ t) = u ++ restore t := by
  refine substitute_unmatched (by decide) fun v a r _ suffix same blank => ?_
  have taken := congrArg (List.takeWhile isPlain) same
  rw [List.takeWhile_append_of_pos fun c mem => plain c (suffix.subset mem),
    List.takeWhile_append_of_pos plain_word, List.takeWhile_append_of_pos (plain_of_isBlank blank),
    List.takeWhile_cons_of_pos (by decide)] at taken
  have mem : '[' ∈ v ++ t.takeWhile isPlain := by simp [taken]
  rcases List.mem_append.mp mem with mem | mem
  · exact absurd (suffix.subset mem) square
  · exact absurd mem next

end Call

/-- With its parentheses back the text `t`, whose calls are in square brackets, is `s` whatever
stands behind it: a factor that is read as the guard. -/
structure Bracketed (s t : Text) (g : Guard) : Prop where
  restore : ∀ r, '[' ∉ r.takeWhile isPlain → Call.restore (t ++ r) = s ++ Call.restore r
  factor : Factor s t g

namespace Bracketed
variable {s t s' t' argument name : Text} {f g : Guard}

theorem restore_eq (h : Bracketed s t g) : Call.restore t = s := by
  have whole := h.restore [] List.not_mem_nil
  rwa [List.append_nil, show Call.restore [] = [] from rfl, List.append_nil] at whole

theorem call (h : Argument argument name) :
    Bracketed ("defined(".toList ++ (argument ++ [')']))
      ("defined".toList ++ ('[' :: (argument ++ [']']))) (.defined name false) where
  restore r _ := h.restore r
  factor := Factor.call h

theorem call_not {a : Text} (h : Argument argument name) (ha : a.IsBlank) :
    Bracketed ('!' :: (a ++ ("defined(".toList ++ (argument ++ [')']))))
      ('!' :: (a ++ ("defined".toList ++ ('[' :: (argument ++ [']']))))) (.defined name true) where
  restore r _ := by
    have first : 'd' ∉ '!' :: a := by simp [ha.not_mem (c := 'd') (by decide)]
    have behind := Call.restore_skip first ("defined".toList ++ ('[' :: (argument ++ [']'])) ++ r)
    rw [h.restore] at behind
    simpa using behind
  factor := Factor.call_not h ha

/-- A test without brackets has no parentheses to be put back. -/
theorem of_test (test : Test t g) (square : '[' ∉ t) : Bracketed t t g where
  restore _ next := Call.restore_plain test.plain square next
  factor := Factor.of_test test fun _ settled => Call.protect_plain test.plain settled

theorem junction (first : Bracketed s t f) (last : Bracketed s' t' g) (j : Junction) :
    Bracketed ('(' :: (s ++ (j.sign ++ (s' ++ [')'])))) ('(' :: (t ++ (j.sign ++ (t' ++ [')']))))
      (ofJunction j f g) where
  restore r _ := by
    have sign : 'd' ∉ j.sign ∧ ∀ r, '[' ∉ (j.sign ++ r).takeWhile isPlain := by
      cases j with
      | and => exact ⟨by decide, fun _ => List.not_mem_nil⟩
      | or => exact ⟨by decide, fun _ => List.not_mem_nil⟩
    have closing : '[' ∉ ([')'] ++ r).takeWhile isPlain := List.not_mem_nil
    calc Call.restore ('(' :: (t ++ (j.sign ++ (t' ++ [')']))) ++ r)
        = Call.restore (['('] ++ (t ++ (j.sign ++ (t' ++ ([')'] ++ r))))) := by simp
      _ = ['('] ++ (s ++ (j.sign ++ (s' ++ ([')'] ++ Call.restore r)))) := by
          rw [Call.restore_skip (by decide), first.restore _ (sign.2 _), Call.restore_skip sign.1,
            last.restore _ closing, Call.restore_skip (by decide)]
      _ = '(' :: (s ++ (j.sign ++ (s' ++ [')']))) ++ Call.restore r := by simp
  factor := by
    have both := first.factor.junction last.factor blanks_nil blanks_nil j
    simpa using both

end Bracketed

section Stacks

/-- With its parentheses back the text is read as the guard of the part. -/
def Prints (text : Text) (part : Part) : Prop := ∃ s, Bracketed s text part.toGuard

/-- An operand that is read again as the test it is made into. -/
def Faithful (text : Text) : Prop := Prints text (.operand text)

theorem Bracketed.faithful {s t : Text} {g : Guard} (h : Bracketed s t g) (test : Test t g) :
    Faithful t := by
  have made : (Part.operand t).toGuard = g := test.guard_eq
  exact ⟨s, by rwa [made]⟩

/-- The stack of texts and the stack of parts, each text beside the part that it prints. -/
abbrev Beside : List Text → List Part → Prop := List.Forall₂ Prints

/-- Both stacks lack the operands of the same junctions. -/
theorem Beside.step {stack : List Text} {r : Reduction} (h : Beside stack r.parts) {element : Rpn}
    (own : ∀ text, element = .operand text → Faithful text) :
    Beside (Rpn.infixStep stack element) (r.step element).parts := by
  cases element with
  | operand text => exact .cons (own text rfl) h
  | junction j =>
    obtain ⟨parts, skipped⟩ := r
    cases h with
    | nil => exact .nil
    | cons right below =>
      cases below with
      | nil => exact .cons right .nil
      | cons left below =>
        obtain ⟨_, last⟩ := right
        obtain ⟨_, first⟩ := left
        exact .cons ⟨_, first.junction last j⟩ below

theorem Beside.foldl {rpn : List Rpn} {stack : List Text} {r : Reduction}
    (h : Beside stack r.parts) (own : ∀ text, .operand text ∈ rpn → Faithful text) :
    Beside (rpn.foldl Rpn.infixStep stack) (rpn.foldl Reduction.step r).parts := by
  induction rpn generalizing stack r with
  | nil => exact h
  | cons element rpn ih =>
    have here : Beside (Rpn.infixStep stack element) (r.step element).parts :=
      h.step fun text same => own text (same ▸ List.mem_cons_self)
    exact ih here fun text mem => own text (List.mem_cons_of_mem element mem)

/-- The operators between their operands again are read as what the reduction makes. -/
theorem parse_toInfix {rpn : List Rpn} (own : ∀ text, .operand text ∈ rpn → Faithful text) :
    parse (Call.restore (Rpn.toInfix rpn)) = (reduce rpn).guard := by
  have beside : Beside (rpn.foldl Rpn.infixStep []) (reduce rpn).parts :=
    Beside.foldl .nil own
  rw [Rpn.toInfix, Reduction.guard]
  revert beside
  generalize rpn.foldl Rpn.infixStep [] = stack, (reduce rpn).parts = parts
  rintro (_ | ⟨⟨s, top⟩, -⟩)
  · rfl
  · rw [List.headD_cons, top.restore_eq]
    exact top.factor.parse_eq

end Stacks

end ShaderPrep.Guard
