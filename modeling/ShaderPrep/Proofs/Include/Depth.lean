import ShaderPrep.Proofs.Include.Pass

/-! Resolving pass by pass is inlining, up to a depth. Every pass is one step, so that the passes
left bound the nesting which is still allowed, and the limit is met exactly. -/
namespace ShaderPrep.Include

section Nesting
variable {settings : Settings} {store : Store} {s t : Text}

/-- One text includes the other. -/
def Leads (settings : Settings) (store : Store) (s t : Text) : Prop :=
  ∃ d, HasDirective s d ∧ Expands settings store d t

/-- Including a text leads to it again. -/
def Cyclic (settings : Settings) (store : Store) (s : Text) : Prop :=
  ∃ t, Leads settings store s t ∧ Reachable settings store t s

theorem Nests.leads {depth : Nat} (h : Nests settings store depth s)
    (leads : Leads settings store s t) : ∃ m, m + 1 = depth ∧ Nests settings store m t := by
  obtain ⟨d, has, expands⟩ := leads
  cases depth with
  | zero => exact absurd has (h d)
  | succ m => exact ⟨m, rfl, h d t has expands⟩

theorem Nests.reachable {depth : Nat} (h : Nests settings store depth s)
    (reachable : Reachable settings store s t) : ∃ m ≤ depth, Nests settings store m t := by
  induction reachable with
  | source => exact ⟨depth, Nat.le_refl depth, h⟩
  | expand _ has expands ih =>
    obtain ⟨m, le, nests⟩ := ih
    obtain ⟨m', rfl, nests'⟩ := nests.leads ⟨_, has, expands⟩
    exact ⟨m', by omega, nests'⟩

/-- A text that includes itself nests without end. -/
theorem Cyclic.not_nests (h : Cyclic settings store s) (depth : Nat) :
    ¬Nests settings store depth s := by
  induction depth using Nat.strongRecOn with
  | ind depth ih =>
    intro nests
    obtain ⟨t, leads, reachable⟩ := h
    obtain ⟨m, rfl, inner⟩ := nests.leads leads
    obtain ⟨m', le, again⟩ := inner.reachable reachable
    exact ih m' (by omega) again

theorem Cyclic.not_nests_of_reachable (h : Cyclic settings store t)
    (reachable : Reachable settings store s t) (depth : Nat) :
    ¬Nests settings store depth s := by
  intro nests
  obtain ⟨m, -, inner⟩ := nests.reachable reachable
  exact h.not_nests m inner

theorem nests_of_not_hasDirective (h : ∀ d, ¬HasDirective s d) (depth : Nat) :
    Nests settings store depth s := by
  cases depth with
  | zero => exact h
  | succ depth => exact fun d _ has _ => absurd has (h d)

end Nesting

section Resolve
variable {settings : Settings} {engine : Option Engine} {store : Store} {s text : Text}

theorem value_resolveWithin_complete (left : Nat)
    (h : (pass settings engine store s).value = .complete text) :
    (resolveWithin settings engine left store s).value = (.ok text, store) := by
  rw [resolveWithin]
  split <;> simp_all

theorem value_resolveWithin_failed {failure : Failure} (left : Nat)
    (h : (pass settings engine store s).value = .failed failure) :
    (resolveWithin settings engine left store s).value = (.error failure, store) := by
  rw [resolveWithin]
  split <;> simp_all

theorem value_resolveWithin_fetched {key content : Text} (left : Nat)
    (h : (pass settings engine store s).value = .fetched text key content) :
    (resolveWithin settings engine left store s).value =
      (resolveWithin settings engine left (store.setInclude key content) text).value := by
  rw [resolveWithin]
  split <;> simp_all

theorem value_resolveWithin_zero (h : (pass settings engine store s).value = .nested text) :
    (resolveWithin settings engine 0 store s).value =
      (.error { cause := .includeDepthExceeded maxDepth }, store) := by
  rw [resolveWithin]
  split <;> simp_all

theorem value_resolveWithin_succ (left : Nat)
    (h : (pass settings engine store s).value = .nested text) :
    (resolveWithin settings engine (left + 1) store s).value =
      (resolveWithin settings engine left store text).value := by
  rw [resolveWithin]
  split <;> simp_all

variable (engine) in
theorem Once.value_pass_eq (h : Once settings store s text) :
    ((pass settings engine store s).value = .complete text ∧ ∀ d, ¬HasDirective text d) ∨
      ((pass settings engine store s).value = .nested text ∧ ∃ d, HasDirective text d) := by
  obtain ⟨again, left, value⟩ := h.value_pass engine
  have whole := value [] newLine_nil
  have last : (pass settings engine store []).value = .complete [] := rfl
  rw [List.append_nil, last] at whole
  cases again with
  | false =>
    refine .inl ⟨by simpa [Pass.after] using whole, fun d has => ?_⟩
    exact Bool.false_ne_true (left.mpr ⟨d, has⟩)
  | true => exact .inr ⟨by simpa [Pass.after] using whole, left.mp rfl⟩

variable (engine) in
/-- With `left` further passes allowed, what nests one level deeper than that is inlined. -/
theorem resolveWithin_eq_inlined (tame : Tame settings store s) (left : Nat) :
    (Nests settings store (left + 1) s → ∃ result, Inlines settings store s result ∧
      (resolveWithin settings engine left store s).value = (.ok result, store)) ∧
    (¬Nests settings store (left + 1) s →
      (resolveWithin settings engine left store s).value =
        (.error { cause := .includeDepthExceeded maxDepth }, store)) := by
  -- Every key is stored, so a pass is either the last one or takes one level off.
  induction left generalizing s with
  | zero =>
    obtain ⟨text, once⟩ := tame.exists_once
    have level := once.nests_iff 0
    rcases once.value_pass_eq engine with ⟨value, none⟩ | ⟨value, d, has⟩
    · have inlined := once.partly.inlines (once.partly.tidy.inlines_self none)
      refine ⟨fun _ => ⟨text, inlined, ?_⟩, fun deep => ?_⟩
      · exact value_resolveWithin_complete 0 value
      · exact absurd (level.mpr none) deep
    · refine ⟨fun nests => ?_, fun _ => value_resolveWithin_zero value⟩
      exact absurd has (level.mp nests d)
  | succ left ih =>
    obtain ⟨text, once⟩ := tame.exists_once
    have level := once.nests_iff (left + 1)
    rcases once.value_pass_eq engine with ⟨value, none⟩ | ⟨value, d, has⟩
    · have inlined := once.partly.inlines (once.partly.tidy.inlines_self none)
      refine ⟨fun _ => ⟨text, inlined, ?_⟩, fun deep => ?_⟩
      · exact value_resolveWithin_complete (left + 1) value
      · exact absurd (level.mpr (nests_of_not_hasDirective none (left + 1))) deep
    · obtain ⟨within, beyond⟩ := ih (once.tame tame)
      rw [level, value_resolveWithin_succ left value]
      refine ⟨fun nests => ?_, beyond⟩
      obtain ⟨result, inlined, resolved⟩ := within nests
      exact ⟨result, once.partly.inlines inlined, resolved⟩

end Resolve

/-- A set of texts that includes do not leave is enough to look at. -/
theorem Tame.of_closed {settings : Settings} {store : Store} {source : Text} (texts : List Text)
    (start : source ∈ texts)
    (closed : ∀ s ∈ texts, ∀ line ∈ s.splitOn '\n', Text.occurs keyword line = false ∨
      ∃ d t, Directive.Alone d line ∧ Expands settings store d t ∧ t ∈ texts) :
    Tame settings store source := by
  have closed {s line : Text} (mem : s ∈ texts) (part : line ∈ s.splitOn '\n')
      (found : Text.occurs keyword line = true) :
      ∃ d t, Directive.Alone d line ∧ Expands settings store d t ∧ t ∈ texts :=
    (closed s mem line part).resolve_left fun absent =>
      ne_true_of_eq_false absent found
  have replaced {s : Text} {d : Directive} (mem : s ∈ texts) (has : HasDirective s d) :
      ∃ t, Expands settings store d t ∧ t ∈ texts := by
    obtain ⟨line, part, alone⟩ := has
    obtain ⟨d', t, alone', expands, inside⟩ := closed mem part alone.occurs_keyword
    obtain rfl := alone.unique alone'
    exact ⟨t, expands, inside⟩
  have inside {s : Text} (reachable : Reachable settings store source s) : s ∈ texts := by
    induction reachable with
    | source => exact start
    | expand _ has expands ih =>
      obtain ⟨t, expands', mem⟩ := replaced ih has
      rwa [expands.unique expands']
  constructor
  · intro s reachable line part found
    obtain ⟨d, -, alone, -, -⟩ := closed (inside reachable) part found
    exact ⟨d, alone⟩
  · intro s d reachable has
    obtain ⟨t, expands, -⟩ := replaced (inside reachable) has
    exact ⟨t, expands⟩

/-- Includes that nest at most 65 levels deep are inlined, whatever the engine. Those that nest
deeper are refused, and a text that includes itself nests deeper than any bound. -/
theorem resolve_eq_inlined {settings : Settings} {store : Store} {source : Text}
    (tame : Tame settings store source) (engine : Option Engine) :
    (Nests settings store 65 source → ∃ result, Inlines settings store source result ∧
      (resolve settings engine store source).value = (.ok result, store)) ∧
    (¬Nests settings store 65 source →
      (resolve settings engine store source).value =
        (.error { cause := .includeDepthExceeded 64 }, store)) ∧
    ∀ s, Reachable settings store source s → Cyclic settings store s →
      ∀ depth, ¬Nests settings store depth source := by
  obtain ⟨within, beyond⟩ := resolveWithin_eq_inlined engine tame maxDepth
  exact ⟨within, beyond, fun s reachable cyclic => cyclic.not_nests_of_reachable reachable⟩

/-- Two levels, an index and a carriage return, and an include of itself. -/
theorem resolve_eq_inlined_nested :
    let store := ((({} : Store).setInclude ['x'] "v\x7bX\x7d\n#include <y>".toList).setInclude
      ['y'] ['v']).setInclude ['z'] "#include<z>".toList
    let source := "a\n#include<x>[3]\r\nb".toList
    let loop := "#include<z>".toList
    (Tame {} store source ∧ (resolve {} none store source).value =
      (.ok "a\nv3\nv\r\nb".toList, store)) ∧
    (Tame {} store loop ∧ (resolve {} none store loop).value =
      (.error { cause := .includeDepthExceeded 64 }, store)) := by
  intro store source loop
  let inner := "v3\n#include <y>".toList
  let x : Directive := ⟨"#include<x>[3]".toList, ['x'], none, some ['3']⟩
  let y : Directive := ⟨"#include <y>".toList, ['y'], none, none⟩
  let z : Directive := ⟨"#include<z>".toList, ['z'], none, none⟩
  have properX : x.Proper := by decide
  have properY : y.Proper := by decide
  have properZ : z.Proper := by decide
  have return_ : LineEnd ['\r'] := by decide
  have none_ : LineEnd [] := by decide
  have expandsX : Expands {} store x inner := ⟨_, rfl, rfl⟩
  have expandsY : Expands {} store y ['v'] := ⟨_, rfl, rfl⟩
  have expandsZ : Expands {} store z loop := ⟨_, rfl, rfl⟩
  have aloneX : x.Alone "#include<x>[3]\r".toList := ⟨properX, _, return_, rfl⟩
  have aloneY : y.Alone "#include <y>".toList := ⟨properY, _, none_, rfl⟩
  have aloneZ : z.Alone loop := ⟨properZ, _, none_, rfl⟩
  have tame : Tame {} store source := by
    refine Tame.of_closed [source, inner, ['v']] (by decide) ?_
    have sourceLines : source.splitOn '\n' = [['a'], "#include<x>[3]\r".toList, ['b']] := by decide
    have innerLines : inner.splitOn '\n' = [['v', '3'], "#include <y>".toList] := by decide
    have lastLines : List.splitOn '\n' ['v'] = [['v']] := by decide
    simp only [List.forall_mem_cons, sourceLines, innerLines, lastLines, List.not_mem_nil,
      false_imp_iff, implies_true, and_true]
    refine ⟨⟨.inl ?_, .inr ⟨x, inner, aloneX, expandsX, ?_⟩, .inl ?_⟩,
      ⟨.inl ?_, .inr ⟨y, ['v'], aloneY, expandsY, ?_⟩⟩, .inl ?_⟩ <;> decide
  have inlined : Inlines {} store source "a\nv3\nv\r\nb".toList := by
    have a : Inlines {} store ['a'] ['a'] := .plain (by decide) (by decide)
    have b : Inlines {} store ['b'] ['b'] := .plain (by decide) (by decide)
    have v : Inlines {} store ['v'] ['v'] := .plain (by decide) (by decide)
    have v3 : Inlines {} store ['v', '3'] ['v', '3'] := .plain (by decide) (by decide)
    have second : Inlines {} store inner "v3\nv".toList :=
      .lines (by decide) v3 (.directive properY none_ expandsY v)
    have first := Inlines.directive properX return_ expandsX second
    exact .lines (by decide) a (.lines (by decide) first b)
  have nests : Nests {} store 65 source := by
    have hasX : HasDirective source x := ⟨_, by decide, aloneX⟩
    have hasY : HasDirective inner y := ⟨_, by decide, aloneY⟩
    have reachable : Reachable {} store source inner := .expand .source hasX expandsX
    have tidy := tame.tidy inner reachable
    have tidy' := tame.tidy ['v'] (.expand reachable hasY expandsY)
    have a : Once {} store ['a'] ['a'] := .plain (by decide) (by decide)
    have b : Once {} store ['b'] ['b'] := .plain (by decide) (by decide)
    have v3 : Once {} store ['v', '3'] ['v', '3'] := .plain (by decide) (by decide)
    have first : Once {} store source "a\nv3\n#include <y>\r\nb".toList :=
      .lines (by decide) a (.lines (by decide) (.directive properX return_ expandsX tidy) b)
    have second : Once {} store "a\nv3\n#include <y>\r\nb".toList "a\nv3\nv\r\nb".toList :=
      .lines (by decide) a (.lines (by decide) v3
        (.lines (by decide) (.directive properY return_ expandsY tidy') b))
    rw [first.nests_iff, second.nests_iff]
    exact nests_of_not_hasDirective (fun _ => not_hasDirective (by decide)) 63
  have tameLoop : Tame {} store loop := by
    refine Tame.of_closed [loop] (by decide) ?_
    have lines : loop.splitOn '\n' = [loop] := by decide
    simp only [List.forall_mem_cons, lines, List.not_mem_nil, false_imp_iff, implies_true, and_true]
    exact .inr ⟨z, loop, aloneZ, expandsZ, by decide⟩
  have cyclic : Cyclic {} store loop := ⟨loop, ⟨z, .of_line aloneZ, expandsZ⟩, .source⟩
  obtain ⟨within, -, -⟩ := resolve_eq_inlined tame none
  obtain ⟨-, beyond, without⟩ := resolve_eq_inlined tameLoop none
  obtain ⟨result, inlined', resolved⟩ := within nests
  rw [inlined.unique inlined']
  exact ⟨⟨tame, resolved⟩, tameLoop, beyond (without loop .source cyclic 65)⟩

end ShaderPrep.Include
