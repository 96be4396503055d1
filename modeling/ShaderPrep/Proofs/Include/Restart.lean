import ShaderPrep.Proofs.Include.Depth
import ShaderPrep.Proofs.Include.Rounds

/-! A pass that is given up for a fetch leaves a text which is replaced in part, and is not counted
as nesting. The result is the inlined source all the same; but only the depth of the includes says
whether resolving the source again, with everything stored, stays within the limit. -/
namespace ShaderPrep.Include

section Pass
variable {settings : Settings} {engine : Option Engine} {store : Store} {s line : Text}

variable (settings engine store) in
/-- A pass over the text, whatever line comes next: all of it is replaced, or the pass is given up
in it. -/
inductive Passed (s : Text) : Prop
  | whole : Once settings store s s' → Passed s
  | fetched (key content : Text) : Partly settings store s s' → (∀ t, NewLine t →
      (pass settings engine store (s ++ t)).value = .fetched (s' ++ t) key content) → Passed s
  | failed (f : Failure) :
      (∀ t, NewLine t → (pass settings engine store (s ++ t)).value = .failed f) → Passed s

variable (settings engine) in
theorem pass_directive_missing {d : Directive} {t : Text}
    (read : Directive.read? (d.text ++ t) = some d)
    (missing : store.include? (d.key settings.supportsUniformBuffers) = none) :
    (pass settings engine store (d.text ++ t)).value =
      match (fetch settings engine (d.key settings.supportsUniformBuffers)).value with
      | .ok content =>
        .fetched (d.text ++ t) (d.key settings.supportsUniformBuffers) content
      | .error failure => .failed failure := by
  rw [pass, split_directive read]
  simp only [runPass, missing, Traced.value_bind, List.nil_append, unsplit_split]
  cases (fetch settings engine (d.key settings.supportsUniformBuffers)).value <;> rfl

theorem pass_directive_malformed {d : Directive} {t content : Text} {failure : Failure}
    (read : Directive.read? (d.text ++ t) = some d)
    (stored : store.include? (d.key settings.supportsUniformBuffers) = some content)
    (expanded : (d.expand settings content).value = .error failure) :
    (pass settings engine store (d.text ++ t)).value =
      .failed (failure.inShader (d.key settings.supportsUniformBuffers)) := by
  rw [pass, split_directive read]
  simp only [runPass, stored, Traced.value_bind, expanded]
  rfl

variable (engine) in
theorem passed_line (one : '\n' ∉ line) (tidy : Tidy line)
    (expands : ∀ d t, HasDirective line d → Expands settings store d t → Tidy t) :
    Passed settings engine store line := by
  cases found : Text.occurs keyword line with
  | false => exact .whole (.plain one found)
  | true =>
    obtain ⟨d, alone⟩ := (tidy_line one).mp tidy found
    have has : HasDirective line d := .of_line alone
    obtain ⟨proper, ending, end_, rfl⟩ := alone
    have read {t : Text} (new : NewLine t) : Directive.read? (d.text ++ (ending ++ t)) = some d :=
      proper.read?_append end_ new
    cases stored : store.include? (d.key settings.supportsUniformBuffers) with
    | none =>
      cases loaded : (fetch settings engine (d.key settings.supportsUniformBuffers)).value with
      | error failure =>
        refine .failed failure fun t new => ?_
        rw [List.append_assoc, pass_directive_missing settings engine (read new) stored, loaded]
      | ok content =>
        refine .fetched (d.key settings.supportsUniformBuffers) content tidy.partly fun t new => ?_
        rw [List.append_assoc, pass_directive_missing settings engine (read new) stored, loaded]
    | some content =>
      cases expanded : (d.expand settings content).value with
      | error failure =>
        refine .failed (failure.inShader (d.key settings.supportsUniformBuffers)) fun t new => ?_
        rw [List.append_assoc, pass_directive_malformed (read new) stored expanded]
      | ok t =>
        have expands' : Expands settings store d t := ⟨content, stored, expanded⟩
        exact .whole (.directive proper end_ expands' (expands d t has expands'))

variable (engine) in
theorem passed (tidy : Tidy s)
    (expands : ∀ d t, HasDirective s d → Expands settings store d t → Tidy t) :
    Passed settings engine store s := by
  induction s using Text.lines_induction with
  | last line one => exact passed_line engine one tidy expands
  | cons line rest one ih =>
    obtain ⟨first, others⟩ := tidy_append_cons.mp tidy
    simp only [hasDirective_append_cons] at expands
    have assoc (u t : Text) : line ++ '\n' :: u ++ t = line ++ '\n' :: (u ++ t) := by simp
    cases passed_line engine one first fun d t has => expands d t (.inl has) with
    | failed f value =>
      refine .failed f fun t _ => ?_
      rw [assoc, value _ (newLine_cons _)]
    | fetched key content partly value =>
      refine .fetched key content (.lines one partly others.partly) fun t _ => ?_
      rw [assoc, value _ (newLine_cons _)]
      simp
    | @whole new once =>
      obtain ⟨again, -, value⟩ := once.value_pass engine
      have behind (t : Text) : (pass settings engine store (line ++ '\n' :: rest ++ t)).value =
          ((pass settings engine store (rest ++ t)).value.after ['\n'] false).after new again := by
        rw [assoc, value _ (newLine_cons _), value_pass_cons settings engine store
          (Directive.read?_eq_none_of_head (by decide : '#' ≠ '\n') (rest ++ t))]
      cases ih others fun d t has => expands d t (.inr has) with
      | whole once' => exact .whole (.lines one once once')
      | failed f value' =>
        refine .failed f fun t start => ?_
        rw [behind, value' t start]
        rfl
      | fetched key content partly value' =>
        refine .fetched key content (.lines one once.partly partly) fun t start => ?_
        rw [behind, value' t start]
        simp [Pass.after]

variable (engine) in
/-- However a pass ends, its text is the source with some directives replaced, and the last pass
leaves none. -/
theorem partly_of_pass (tidy : Tidy s)
    (expands : ∀ d t, HasDirective s d → Expands settings store d t → Tidy t) :
    match (pass settings engine store s).value with
    | .complete text => Partly settings store s text ∧ ∀ d, ¬HasDirective text d
    | .nested text => Partly settings store s text
    | .fetched text _ _ => Partly settings store s text
    | .failed _ => True := by
  have whole : pass settings engine store (s ++ []) = pass settings engine store s := by
    rw [List.append_nil]
  cases passed engine tidy expands with
  | whole once =>
    rcases once.value_pass_eq engine with ⟨value, none⟩ | ⟨value, -⟩
    · rw [value]
      exact ⟨once.partly, none⟩
    · rw [value]
      exact once.partly
  | fetched key content partly value =>
    rw [← whole, value [] newLine_nil, List.append_nil]
    exact partly
  | failed f value =>
    rw [← whole, value [] newLine_nil]
    trivial

end Pass

section Again
variable {settings : Settings} {engine : Option Engine} {store left : Store} {s s' text : Text}

theorem Expands.within {d : Directive} {t : Text} (within : Within store left)
    (h : Expands settings store d t) : Expands settings left d t := by
  obtain ⟨content, stored, expanded⟩ := h
  exact ⟨content, within _ _ stored, expanded⟩

/-- What is tidy wherever including leads stays so when some of the directives are replaced. -/
theorem Partly.tidy_reachable (h : Partly settings left s s')
    (tidy : ∀ u, Reachable settings left s u → Tidy u) :
    ∀ u, Reachable settings left s' u → Tidy u := by
  intro u reachable
  rcases h.reachable reachable with rfl | reachable
  · exact h.tidy
  · exact tidy u reachable

/-- Whatever passes are given up on the way, a result is the source inlined with the store left
behind. -/
theorem Round.inlines_of_resolve (r : Round)
    (h : (r.resolve settings engine).value = (.ok text, left))
    (tidy : ∀ u, Reachable settings left r.source u → Tidy u) :
    Inlines settings left r.source text := by
  induction r using Round.induction settings engine with
  | step r ih =>
    have within : Within r.store left := by
      have kept := r.within_resolve settings engine
      rwa [h] at kept
    have partly := partly_of_pass engine (tidy _ .source) fun d t has expands =>
      tidy t (.expand .source has (expands.within within))
    have mono {s' : Text} (partly : Partly settings r.store r.source s') :
        Partly settings left r.source s' := partly.mono fun _ _ => Expands.within within
    cases turn : (r.turn settings engine).value with
    | done result =>
      rw [r.resolve_of_done turn] at h
      cases h
      rcases turn_eq_done turn with ⟨text', value, same⟩ | ⟨failure, -, no⟩ | ⟨_, -, -, no⟩
      · cases same
        rw [value] at partly
        exact (mono partly.1).inlines (partly.1.tidy.inlines_self partly.2)
      · cases no
      · cases no
    | next r' =>
      rw [r.resolve_of_next turn] at h
      have further (next : Partly settings left r.source r'.source) :
          Inlines settings left r.source text :=
        next.inlines (ih r' turn h (next.tidy_reachable tidy))
      rcases turn_eq_next turn with ⟨s', key, content, value, rfl⟩ | ⟨n, s', value, -, rfl⟩
      · rw [value] at partly
        exact further (mono partly)
      · rw [value] at partly
        exact further (mono partly)

/-- What a text with an inlined form includes is stored, and has one itself. -/
theorem Inlines.expands {r : Text} {d : Directive} (h : Inlines settings store s r)
    (has : HasDirective s d) :
    ∃ t r', Expands settings store d t ∧ Inlines settings store t r' := by
  induction h with
  | plain _ absent => exact absurd has (not_hasDirective absent)
  | @directive ending d' t new proper end_ expands inner _ =>
    have alone : d'.Alone (d'.text ++ ending) := ⟨proper, ending, end_, rfl⟩
    obtain rfl := alone.unique ((hasDirective_line alone.newLine_not_mem).mp has)
    exact ⟨t, new, expands, inner⟩
  | lines _ _ _ first others =>
    rcases hasDirective_append_cons.mp has with has | has
    · exact first has
    · exact others has

theorem Inlines.tame {r : Text} (h : Inlines settings store s r)
    (tidy : ∀ u, Reachable settings store s u → Tidy u) : Tame settings store s where
  tidy := tidy
  expands := by
    have inlined {u : Text} (reachable : Reachable settings store s u) :
        ∃ r', Inlines settings store u r' := by
      induction reachable with
      | source => exact ⟨r, h⟩
      | expand _ has expands ih =>
        obtain ⟨_, outer⟩ := ih
        obtain ⟨t, r', expands', inner⟩ := outer.expands has
        rw [expands.unique expands']
        exact ⟨r', inner⟩
    intro u d reachable has
    obtain ⟨_, outer⟩ := inlined reachable
    obtain ⟨t, _, expands, -⟩ := outer.expands has
    exact ⟨t, expands⟩

/-- A source that was resolved comes out the same once more, with the store left behind and
whatever engine, exactly if its includes nest at most 65 levels deep. If they nest deeper it is
refused, although it was resolved when includes were still missing. -/
theorem resolve_again_iff (h : (resolve settings engine store s).value = (.ok text, left))
    (tidy : ∀ u, Reachable settings left s u → Tidy u) (again : Option Engine) :
    ((resolve settings again left s).value = (.ok text, left) ↔ Nests settings left 65 s) ∧
    (¬Nests settings left 65 s →
      (resolve settings again left s).value =
        (.error { cause := .includeDepthExceeded 64 }, left)) ∧
    Inlines settings left s text := by
  have inlined : Inlines settings left s text :=
    Round.inlines_of_resolve ⟨maxDepth, store, s⟩ h tidy
  obtain ⟨within, beyond⟩ := resolveWithin_eq_inlined again (inlined.tame tidy) maxDepth
  refine ⟨⟨fun resolved => ?_, fun nests => ?_⟩, beyond, inlined⟩
  · by_contra deep
    have refused := beyond deep
    rw [show resolveWithin settings again maxDepth left s = resolve settings again left s from rfl,
      resolved] at refused
    cases refused
  · obtain ⟨result, inlined', resolved⟩ := within nests
    rwa [inlined.unique inlined']

/-- An include of another that is still missing where it is included the second time. -/
theorem resolve_again_iff_missing :
    let store := ({} : Store).setInclude ['x'] "v\x7bX\x7d\n#include <y>".toList
    let left := store.setInclude ['y'] ['w']
    let files := [("ShadersInclude/y.fx".toList, ['w'])]
    let engine : Engine :=
      { load := Engine.loadFrom files [], finite := Engine.loadFrom_finite _ _ }
    let source := "a\n#include<x>[3]\r\n#include<y>".toList
    let text := "a\nv3\nw\r\nw".toList
    ((resolve {} (some engine) store source).value = (.ok text, left) ∧
      ∀ u, Reachable {} left source u → Tidy u) ∧
    (resolve {} none left source).value = (.ok text, left) ∧ Nests {} left 65 source := by
  intro store left files engine source text
  let inner := "v3\n#include <y>".toList
  let x : Directive := ⟨"#include<x>[3]".toList, ['x'], none, some ['3']⟩
  let y : Directive := ⟨"#include <y>".toList, ['y'], none, none⟩
  let y' : Directive := ⟨"#include<y>".toList, ['y'], none, none⟩
  have cold : (resolve {} (some engine) store source).value = (.ok text, left) := by
    have fetching : (pass {} (some engine) store source).value =
        .fetched "a\nv3\n#include <y>\r\n#include<y>".toList ['y'] ['w'] := rfl
    exact (value_resolveWithin_fetched _ fetching).trans (value_resolveWithin_complete _ rfl)
  have warm : (resolve {} none left source).value = (.ok text, left) := by
    have nesting : (pass {} none left source).value =
        .nested "a\nv3\n#include <y>\r\nw".toList := rfl
    exact (value_resolveWithin_succ _ nesting).trans (value_resolveWithin_complete _ rfl)
  have tame : Tame {} left source := by
    have properX : x.Proper := by decide
    have properY : y.Proper := by decide
    have properY' : y'.Proper := by decide
    have return_ : LineEnd ['\r'] := by decide
    have none_ : LineEnd [] := by decide
    refine Tame.of_closed [source, inner, ['w']] (by decide) ?_
    have sourceLines : source.splitOn '\n' = [['a'], "#include<x>[3]\r".toList, y'.text] := by
      decide
    have innerLines : inner.splitOn '\n' = [['v', '3'], y.text] := by decide
    have lastLines : List.splitOn '\n' ['w'] = [['w']] := by decide
    simp only [List.forall_mem_cons, sourceLines, innerLines, lastLines, List.not_mem_nil,
      false_imp_iff, implies_true, and_true]
    refine ⟨⟨.inl ?_, .inr ⟨x, inner, ⟨properX, _, return_, rfl⟩, ⟨_, rfl, rfl⟩, ?_⟩,
      .inr ⟨y', ['w'], ⟨properY', _, none_, rfl⟩, ⟨_, rfl, rfl⟩, ?_⟩⟩,
      ⟨.inl ?_, .inr ⟨y, ['w'], ⟨properY, _, none_, rfl⟩, ⟨_, rfl, rfl⟩, ?_⟩⟩, .inl ?_⟩ <;>
      decide
  exact ⟨⟨cold, tame.tidy⟩, warm, (resolve_again_iff cold tame.tidy none).1.mp warm⟩

end Again

section Chain

theorem nests_append_cons {settings : Settings} {store : Store} {s t : Text} {depth : Nat} :
    Nests settings store depth (s ++ '\n' :: t) ↔
      Nests settings store depth s ∧ Nests settings store depth t := by
  cases depth with
  | zero => simp only [Nests, hasDirective_append_cons, not_or, forall_and]
  | succ depth =>
    simp only [Nests, hasDirective_append_cons, or_imp, forall_and]

theorem Directive.Alone.nests_succ {settings : Settings} {store : Store} {d : Directive}
    {line t : Text} {depth : Nat} (h : d.Alone line) (expands : Expands settings store d t) :
    Nests settings store (depth + 1) line ↔ Nests settings store depth t := by
  constructor
  · exact fun nests => nests d t (.of_line h) expands
  · intro nests d' t' has expands'
    obtain rfl := h.unique ((hasDirective_line h.newLine_not_mem).mp has)
    rwa [expands'.unique expands]

/-- A directive for the include that is so deep, or plain text at the end. -/
def link : Nat → Text
  | 0 => ['v']
  | n + 1 => keyword ++ '<' :: List.replicate (n + 1) 'a' ++ ['>']

/-- Includes of each other, one below the other. -/
def chain : Nat → Store
  | 0 => {}
  | n + 1 => (chain n).setInclude (List.replicate (n + 1) 'a') (link n)

def linkDirective (n : Nat) : Directive := ⟨link (n + 1), List.replicate (n + 1) 'a', none, none⟩

variable {store : Store} {n : Nat}

/-- The store has the chain down from a depth. -/
def HasChain (store : Store) (n : Nat) : Prop :=
  ∀ k < n, store.include? (List.replicate (k + 1) 'a') = some (link k)

theorem hasChain_chain (n : Nat) : HasChain (chain n) n := by
  induction n with
  | zero => exact fun _ small => absurd small (Nat.not_lt_zero _)
  | succ n ih =>
    intro k small
    rw [chain, Store.include?_setInclude]
    split
    · next same =>
      have depth := congrArg List.length same
      simp only [List.length_replicate, Nat.add_right_cancel_iff] at depth
      rw [depth]
    · next other =>
      have different : k ≠ n := fun same => other (by rw [same])
      exact ih k (by omega)

theorem linkDirective_proper (n : Nat) : (linkDirective n).Proper where
  spelled := ⟨[], .inl rfl, by simp [linkDirective, link, part]⟩
  named := by simp [linkDirective]
  name := by
    intro c mem
    obtain rfl := List.eq_of_mem_replicate mem
    decide
  replacements := by simp [linkDirective]
  range := by simp [linkDirective]

theorem alone_link (n : Nat) : (linkDirective n).Alone (link (n + 1)) :=
  ⟨linkDirective_proper n, [], by decide, by simp [linkDirective]⟩

theorem HasChain.expands (h : HasChain store n) {k : Nat} (small : k < n) :
    Expands {} store (linkDirective k) (link k) := by
  have key : (linkDirective k).key false = List.replicate (k + 1) 'a' := by
    have plain : Text.occurs "__decl__".toList (linkDirective k).name = false := by
      refine Bool.eq_false_iff.mpr fun found => ?_
      obtain ⟨before, rest, same⟩ := Text.occurs_iff.mp found
      have mem : '_' ∈ (linkDirective k).name := by simp [same]
      simp [linkDirective] at mem
    simp only [Directive.key, plain]
    rfl
  exact ⟨link k, by rw [key]; exact h k small, rfl⟩

theorem HasChain.nests_iff (h : HasChain store n) {k depth : Nat} (small : k ≤ n) :
    Nests {} store depth (link k) ↔ k ≤ depth := by
  induction k generalizing depth with
  | zero =>
    have none : ∀ d, ¬HasDirective (link 0) d := fun d => not_hasDirective (by decide)
    exact ⟨fun _ => Nat.zero_le depth, fun _ => nests_of_not_hasDirective none depth⟩
  | succ k ih =>
    have alone := alone_link k
    have expands := h.expands (k := k) (by omega)
    cases depth with
    | zero =>
      constructor
      · exact fun none => absurd (HasDirective.of_line alone) (none _)
      · exact fun no => absurd no (Nat.not_succ_le_zero k)
    | succ depth =>
      rw [alone.nests_succ expands, ih (by omega)]
      omega

theorem HasChain.inlines (h : HasChain store n) {k : Nat} (small : k ≤ n) :
    Inlines {} store (link k) ['v'] := by
  induction k with
  | zero => exact .plain (by decide) (by decide)
  | succ k ih =>
    have expands := h.expands (k := k) (by omega)
    have inlined : Inlines {} store ((linkDirective k).text ++ []) (['v'] ++ []) :=
      .directive (linkDirective_proper k) (by decide) expands (ih (by omega))
    simpa [linkDirective] using inlined

theorem link_newLine (n : Nat) : '\n' ∉ link n := by
  cases n with
  | zero => decide
  | succ n => exact (alone_link n).newLine_not_mem

/-- The deepest include of a chain and another one on the next line. -/
theorem HasChain.tame (h : HasChain store n) {d : Directive} {t : Text} (alone : d.Alone d.text)
    (expands : Expands {} store d t) (plain : Text.occurs keyword t = false) (one : '\n' ∉ t) :
    Tame {} store (link n ++ '\n' :: d.text) := by
  refine Tame.of_closed ((link n ++ '\n' :: d.text) :: t :: (List.range (n + 1)).map link)
    List.mem_cons_self ?_
  have linked : ∀ k ≤ n, ∀ line ∈ (link k).splitOn '\n', Text.occurs keyword line = false ∨
      ∃ d' t', d'.Alone line ∧ Expands {} store d' t' ∧
        t' ∈ (link n ++ '\n' :: d.text) :: t :: (List.range (n + 1)).map link := by
    intro k small line mem
    rw [List.splitOn_eq_singleton (link_newLine k), List.mem_singleton] at mem
    subst mem
    cases k with
    | zero => exact .inl (by decide)
    | succ k =>
      refine .inr ⟨_, link k, alone_link k, h.expands (by omega), ?_⟩
      have listed : k ∈ List.range (n + 1) := List.mem_range.mpr (by omega)
      simp only [List.mem_cons]
      exact .inr (.inr (List.mem_map_of_mem listed))
  intro s mem line part
  simp only [List.mem_cons, List.mem_map, List.mem_range] at mem
  rcases mem with rfl | rfl | ⟨k, small, rfl⟩
  · rw [List.splitOn_append_cons_self, List.mem_append] at part
    rcases part with part | part
    · exact linked n (Nat.le_refl n) line part
    · rw [List.splitOn_eq_singleton alone.newLine_not_mem, List.mem_singleton] at part
      subst part
      exact .inr ⟨d, t, alone, expands, by simp⟩
  · rw [List.splitOn_eq_singleton one, List.mem_singleton] at part
    subst part
    exact .inl plain
  · exact linked k (by omega) line part

/-- An include that is missing from a chain. -/
def late : Directive := ⟨"#include<b>".toList, ['b'], none, none⟩

def lateEngine : Engine where
  load := Engine.loadFrom [("ShadersInclude/b.fx".toList, ['B'])] []
  finite := Engine.loadFrom_finite _ _

def chainSource (n : Nat) : Text := link n ++ '\n' :: late.text

/-- The chain and the include that was missing. -/
def chainFetched (n : Nat) : Store := (chain n).setInclude ['b'] ['B']

theorem chain_late (n : Nat) : (chain n).include? ['b'] = none := by
  induction n with
  | zero => rfl
  | succ n ih =>
    have other : ['b'] ≠ List.replicate (n + 1) 'a' := by simp [List.replicate_succ]
    rw [chain, Store.include?_setInclude, if_neg other, ih]

theorem late_alone : late.Alone late.text :=
  ⟨by decide, [], by decide, rfl⟩

theorem late_expands (n : Nat) : Expands {} (chainFetched n) late ['B'] := by
  have stored : (chainFetched n).include? ['b'] = some ['B'] := by
    rw [chainFetched, Store.include?_setInclude, if_pos rfl]
  exact ⟨['B'], stored, rfl⟩

theorem hasChain_fetched (n : Nat) : HasChain (chainFetched n) n := by
  intro k small
  exact within_setInclude (chain_late n) ['B'] _ _ (hasChain_chain n k small)

theorem HasChain.mono {m : Nat} (h : HasChain store n) (small : m ≤ n) : HasChain store m :=
  fun k less => h k (by omega)

theorem chain_tame {k : Nat} (small : k ≤ n) : Tame {} (chainFetched n) (chainSource k) :=
  ((hasChain_fetched n).mono small).tame late_alone (late_expands n) (by decide) (by decide)

theorem chain_nests_iff {k depth : Nat} (small : k ≤ n) :
    Nests {} (chainFetched n) (depth + 1) (chainSource k) ↔ k ≤ depth + 1 := by
  have plain : Nests {} (chainFetched n) depth ['B'] :=
    nests_of_not_hasDirective (fun d => not_hasDirective (by decide)) depth
  have rest := (late_alone.nests_succ (late_expands n)).mpr plain
  rw [chainSource, nests_append_cons, (hasChain_fetched n).nests_iff small]
  exact ⟨fun both => both.1, fun less => ⟨less, rest⟩⟩

theorem chain_inlines {k : Nat} (small : k ≤ n) :
    Inlines {} (chainFetched n) (chainSource k) "v\nB".toList := by
  have first := (hasChain_fetched n).inlines small
  have second : Inlines {} (chainFetched n) (late.text ++ []) (['B'] ++ []) :=
    .directive late_alone.1 (by decide) (late_expands n) (.plain (by decide) (by decide))
  rw [List.append_nil] at second
  exact .lines (link_newLine k) first second

/-- The pass that finds the include missing takes one level off the chain. -/
theorem chain_fetching (n : Nat) :
    (pass {} (some lateEngine) (chain (n + 1)) (chainSource (n + 1))).value =
      .fetched (chainSource n) ['b'] ['B'] := by
  have expands := (hasChain_chain (n + 1)).expands (Nat.lt_succ_self n)
  have read := (linkDirective_proper n).read?_append (by decide : LineEnd [])
    (newLine_cons late.text)
  rw [List.nil_append] at read
  have other : Directive.read? (late.text ++ []) = some late := by decide
  have here : (pass {} (some lateEngine) (chain (n + 1)) late.text).value =
      .fetched late.text ['b'] ['B'] := by
    have value := pass_directive_missing {} (some lateEngine) other (chain_late (n + 1))
    rwa [List.append_nil] at value
  have break_ := value_pass_cons {} (some lateEngine) (chain (n + 1))
    (Directive.read?_eq_none_of_head (by decide : '#' ≠ '\n') late.text)
  have source : chainSource (n + 1) = (linkDirective n).text ++ '\n' :: late.text := rfl
  rw [source, value_pass_directive (some lateEngine) read expands, break_, here]
  simp [Pass.after, chainSource]

/-- A pass that is given up for a fetch takes one level off that is not counted: 66 levels are
resolved when an include is missing, and refused once it is stored. -/
theorem resolve_again_refused :
    (resolve {} (some lateEngine) (chain 66) (chainSource 66)).value =
      (.ok "v\nB".toList, chainFetched 66) ∧
    (∀ u, Reachable {} (chainFetched 66) (chainSource 66) u → Tidy u) ∧
    (resolve {} (some lateEngine) (chainFetched 66) (chainSource 66)).value =
      (.error { cause := .includeDepthExceeded 64 }, chainFetched 66) := by
  have tame := chain_tame (Nat.le_refl 66)
  refine ⟨?_, tame.tidy, ?_⟩
  · have small : 65 ≤ 66 := by decide
    obtain ⟨within, -⟩ := resolveWithin_eq_inlined (some lateEngine) (chain_tame small) maxDepth
    obtain ⟨result, inlined, resolved⟩ := within ((chain_nests_iff small).mpr (Nat.le_refl 65))
    rw [inlined.unique (chain_inlines small)] at resolved
    exact (value_resolveWithin_fetched _ (chain_fetching 65)).trans resolved
  · obtain ⟨-, beyond⟩ := resolveWithin_eq_inlined (some lateEngine) tame maxDepth
    refine beyond fun nests => ?_
    exact absurd ((chain_nests_iff (Nat.le_refl 66)).mp nests) (by decide)

end Chain

end ShaderPrep.Include
