import ShaderPrep.Proofs.Include.Restart

/-! What a result may still have to resolve. The last pass looks for two spellings of an opening in
each text that it puts in, and not at what it has made as a whole; so a directive with another blank
is left over, and one that only comes about where a text meets what is around it. -/
namespace ShaderPrep.Include

/-- The parts of what a pass makes of a source: the texts that stay and the texts put in. -/
inductive Parts (settings : Settings) (store : Store) (tail : Text) :
    List Piece → List Text → List Text → Prop
  | tail : Parts settings store tail [] [] [tail]
  | piece : Expands settings store piece.directive t → Parts settings store tail pieces puts parts →
      Parts settings store tail (piece :: pieces) (t :: puts) (piece.before :: t :: parts)

/-- No directive reaches over the end of a part. -/
def Seamless (parts : List Text) : Prop :=
  ∀ u w v, Bare w → parts.flatten = u ++ w ++ v →
    ∃ before part behind u' v', parts = before ++ part :: behind ∧ u = before.flatten ++ u' ∧
      part = u' ++ w ++ v'

section Last
variable {settings : Settings} {engine : Option Engine} {store left : Store} {s text tail : Text}
  {pieces : List Piece} {puts parts : List Text}

theorem Pass.after_eq_complete {p : Pass} {before : Text} {again : Bool}
    (h : p.after before again = .complete text) :
    again = false ∧ ∃ t, p = .complete t ∧ text = before ++ t := by
  cases p with
  | complete t =>
    cases again with
    | false =>
      cases h
      exact ⟨rfl, t, rfl, rfl⟩
    | true => cases h
  | nested t => cases h
  | fetched t key content => cases h
  | failed f => cases h

/-- The last pass puts a text in for every directive, none with an opening it looks for. -/
theorem runPass_eq_complete
    (h : (runPass settings engine store pieces tail).value = .complete text) :
    ∃ puts parts, Parts settings store tail pieces puts parts ∧ text = parts.flatten ∧
      ∀ t ∈ puts, hasDirective t = false := by
  induction pieces generalizing text with
  | nil =>
    cases h
    exact ⟨[], [tail], .tail, by simp, fun _ mem => absurd mem List.not_mem_nil⟩
  | cons piece pieces ih =>
    obtain ⟨before, d⟩ := piece
    simp only [runPass] at h
    split at h
    · simp only [Traced.value_bind] at h
      split at h
      · cases h
      · cases h
    · next content stored =>
      simp only [Traced.value_bind] at h
      split at h
      · cases h
      · next t expanded =>
        simp only [Traced.value_bind, Traced.value_pure] at h
        obtain ⟨last, rest, others, rfl⟩ := Pass.after_eq_complete h
        obtain ⟨puts, parts, filled, rfl, none⟩ := ih others
        refine ⟨t :: puts, before :: t :: parts, .piece ⟨content, stored, expanded⟩ filled, ?_, ?_⟩
        · simp
        · exact List.forall_mem_cons.mpr ⟨last, none⟩

theorem Parts.mem_cases (h : Parts settings store tail pieces puts parts) {part : Text}
    (mem : part ∈ parts) :
    part ∈ puts ∨ part = tail ∨ ∃ piece ∈ pieces, part = piece.before := by
  induction h with
  | tail => exact .inr (.inl (List.mem_singleton.mp mem))
  | piece _ _ ih =>
    rcases List.mem_cons.mp mem with rfl | mem
    · exact .inr (.inr ⟨_, List.mem_cons_self, rfl⟩)
    rcases List.mem_cons.mp mem with rfl | mem
    · exact .inl List.mem_cons_self
    rcases ih mem with here | same | ⟨piece, there, same⟩
    · exact .inl (List.mem_cons_of_mem _ here)
    · exact .inr (.inl same)
    · exact .inr (.inr ⟨piece, List.mem_cons_of_mem _ there, same⟩)

theorem Parts.mem_of_mem_puts (h : Parts settings store tail pieces puts parts) {t : Text}
    (mem : t ∈ puts) : t ∈ parts := by
  induction h with
  | tail => exact absurd mem List.not_mem_nil
  | piece _ _ ih =>
    rcases List.mem_cons.mp mem with rfl | mem
    · simp
    · simp [ih mem]

theorem infix_flatten {part : Text} (mem : part ∈ parts) : part <:+: parts.flatten := by
  obtain ⟨before, behind, rfl⟩ := List.append_of_mem mem
  exact ⟨before.flatten, behind.flatten, by simp⟩

/-- What is made of a source has no directive exactly if no text put in has one and none reaches
over the end of a part. -/
theorem Parts.scan_eq_nil_iff (h : Parts settings store (split s).2 (split s).1 puts parts) :
    scan parts.flatten = [] ↔ (∀ t ∈ puts, scan t = []) ∧ Seamless parts := by
  simp only [Include.scan_eq_nil_iff]
  constructor
  · intro clear
    constructor
    · exact fun t mem => clear.infix (infix_flatten (h.mem_of_mem_puts mem))
    · intro u w v bare same
      exact absurd ⟨u, v, same.symm⟩ (clear w bare)
  · rintro ⟨none, seamless⟩ w bare ⟨u, v, same⟩
    obtain ⟨before, part, behind, u', v', cut, -, inside⟩ := seamless u w v bare same.symm
    have found : w <:+: part := ⟨u', v', inside.symm⟩
    have mem : part ∈ parts := by simp [cut]
    obtain ⟨kept, last⟩ := clear_split s
    rcases h.mem_cases mem with here | rfl | ⟨piece, there, rfl⟩
    · exact none part here w bare found
    · exact last w bare found
    · exact kept piece there w bare found

/-- A text is left alone by every resolving exactly if no directive is in it. -/
theorem scan_eq_nil_iff_resolve : scan text = [] ↔
    ∀ settings engine store, (resolve settings engine store text).value = (.ok text, store) := by
  rw [scan_eq_nil_iff_split]
  have whole := unsplit_split text
  cases cut : split text with
  | mk pieces tail =>
    rw [cut] at whole
    cases pieces with
    | nil =>
      obtain rfl : tail = text := whole
      refine ⟨fun _ settings engine store => value_resolveWithin_complete maxDepth ?_, fun _ => rfl⟩
      rw [pass, cut]
      rfl
    | cons piece pieces =>
      -- Without a host and without includes, the first directive makes it fail.
      have refused : (pass {} none {} text).value = .failed
          { cause := .includeNotFound (piece.directive.key false)
              (url {} (piece.directive.key false)) } := by
        rw [pass, cut]
        rfl
      constructor
      · intro none
        cases none
      · intro same
        have resolved := same {} none {}
        rw [resolve, value_resolveWithin_failed maxDepth refused] at resolved
        cases resolved

theorem scan_eq_nil_of_not_occurs (h : Text.occurs keyword text = false) : scan text = [] := by
  rw [Include.scan_eq_nil_iff]
  rintro w ⟨blank, c, name, -, -, -, -, rfl⟩ ⟨u, v, same⟩
  have found : Text.occurs keyword text = true :=
    Text.occurs_iff.mpr ⟨u, blank ++ '<' :: c :: name ++ ['>'] ++ v, by rw [← same]; simp⟩
  exact absurd found (ne_true_of_eq_false h)

/-- The keyword is nowhere in an inlined text. -/
theorem Inlines.not_occurs (h : Inlines settings store s text) :
    Text.occurs keyword text = false := by
  induction h with
  | plain _ absent => exact absent
  | directive _ end_ _ _ ih =>
    refine Bool.eq_false_iff.mpr fun found => ?_
    have apart : ∀ c ∈ _, c ∉ keyword := fun c mem => by
      obtain rfl := end_ c mem
      decide
    exact ne_true_of_eq_false ih (Text.occurs_of_occurs_append (by decide) apart found)
  | lines _ _ _ first others =>
    refine Bool.eq_false_iff.mpr fun found => ?_
    rcases (Text.occurs_append_cons newLine_not_mem_keyword _ _).mp found with here | there
    · exact ne_true_of_eq_false first here
    · exact ne_true_of_eq_false others there

/-- A result has no directive exactly if none is left in a text that the last pass put in, and none
comes about where the parts of the result meet. Directives that have lines for themselves, wherever
including leads, are all resolved. And exactly a result without directives stays as it is when it
is resolved again. -/
theorem scan_resolved_iff (h : (resolve settings engine store s).value = (.ok text, left)) :
    (∃ n more source puts parts,
      Rounds settings engine n ⟨maxDepth, store, s⟩ ⟨more, left, source⟩ ∧
      Parts settings left (split source).2 (split source).1 puts parts ∧ text = parts.flatten ∧
      (∀ t ∈ puts, hasDirective t = false) ∧
      (scan text = [] ↔ (∀ t ∈ puts, scan t = []) ∧ Seamless parts)) ∧
    ((∀ u, Reachable settings left s u → Tidy u) → scan text = []) ∧
    (scan text = [] ↔ ∀ settings engine store,
      (resolve settings engine store text).value = (.ok text, store)) := by
  refine ⟨?_, fun tidy => ?_, scan_eq_nil_iff_resolve⟩
  · obtain ⟨n, ⟨more, after, source⟩, result, rounds, done, value⟩ :=
      exists_last settings engine ⟨maxDepth, store, s⟩
    rw [show Round.resolve settings engine ⟨maxDepth, store, s⟩ = resolve settings engine store s
      from rfl, h] at value
    cases value
    rcases Round.turn_eq_done done with ⟨text', last, same⟩ | ⟨failure, -, no⟩ | ⟨_, -, -, no⟩
    · cases same
      obtain ⟨puts, parts, filled, rfl, none⟩ := runPass_eq_complete last
      exact ⟨n, more, source, puts, parts, rounds, filled, rfl, none, filled.scan_eq_nil_iff⟩
    · cases no
    · cases no
  · have inlined := Round.inlines_of_resolve ⟨maxDepth, store, s⟩ h tidy
    exact scan_eq_nil_of_not_occurs inlined.not_occurs

/-- An index in a text with another directive, and one with a tabulator that is fetched. -/
theorem scan_resolved_iff_nested :
    let store := ({} : Store).setInclude ['x'] "v\x7bX\x7d\n#include <y>".toList
    let files := [("ShadersInclude/y.fx".toList, ['w'])]
    let engine : Engine :=
      { load := Engine.loadFrom files [], finite := Engine.loadFrom_finite _ _ }
    let source := "a\n#include<x>[3]\r\n#include\t<y>".toList
    let text := "a\nv3\nw\r\nw".toList
    (resolve {} (some engine) store source).value = (.ok text, store.setInclude ['y'] ['w']) ∧
    scan text = [] ∧ ∀ settings engine store,
      (resolve settings engine store text).value = (.ok text, store) := by
  intro store files engine source text
  have resolved : (resolve {} (some engine) store source).value =
      (.ok text, store.setInclude ['y'] ['w']) := by
    have fetching : (pass {} (some engine) store source).value =
        .fetched "a\nv3\n#include <y>\r\n#include\t<y>".toList ['y'] ['w'] := rfl
    exact (value_resolveWithin_fetched _ fetching).trans (value_resolveWithin_complete _ rfl)
  have none : scan text = [] := by decide
  exact ⟨resolved, none, (scan_resolved_iff resolved).2.2.mp none⟩

/-- A tabulator in included text, and the keyword at its end. -/
theorem scan_resolved_ne_nil :
    let store := ((({} : Store).setInclude ['a'] "#include\t<c>".toList).setInclude ['b']
      "#include".toList).setInclude ['c'] ['C']
    let blank := "#include\t<c>".toList
    let seam := "#include\n<c>".toList
    ((resolve {} none store "#include<a>".toList).value = (.ok blank, store) ∧ scan blank ≠ [] ∧
      (resolve {} none store blank).value = (.ok ['C'], store)) ∧
    (resolve {} none store "#include<b>\n<c>".toList).value = (.ok seam, store) ∧
      scan seam ≠ [] ∧ (resolve {} none store seam).value = (.ok ['C'], store) := by
  intro store blank seam
  refine ⟨⟨?_, by decide, ?_⟩, ?_, by decide, ?_⟩
  all_goals exact value_resolveWithin_complete _ rfl

end Last
end ShaderPrep.Include
