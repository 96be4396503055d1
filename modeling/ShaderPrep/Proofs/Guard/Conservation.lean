import ShaderPrep.Proofs.Guard.Yard

/-! What the shunting yard keeps of a condition, balanced or not: every junction, and the text
between structural lexemes unless a parenthesis opens behind it. -/
namespace ShaderPrep.Guard

/-- The condition has a junction or a parenthesis. -/
def Structured (s : Text) : Prop :=
  Text.occurs "&&".toList s = true ∨ Text.occurs "||".toList s = true ∨ '(' ∈ s ∨ ')' ∈ s

instance : DecidablePred Structured := fun _ => inferInstanceAs (Decidable (_ ∨ _ ∨ _ ∨ _))

theorem structured_cons (c : Char) (s : Text) :
    Structured (c :: s) ↔ (Text.begins "&&".toList (c :: s) = true ∨
      Text.begins "||".toList (c :: s) = true ∨ c = '(' ∨ c = ')') ∨ Structured s := by
  simp only [Structured, Text.occurs_cons, Bool.or_eq_true, List.mem_cons, eq_comm (b := c)]
  grind

def Junction.lexeme : Junction → Lexeme
  | and => .and
  | or => .or

namespace Lexeme

theorem isStructural_lexeme (j : Junction) : j.lexeme.isStructural = true := by
  cases j <;> rfl

theorem eq_of_isStructural {lexeme : Lexeme} (structural : lexeme.isStructural = true) :
    lexeme = .and ∨ lexeme = .or ∨ lexeme = .opening ∨ lexeme = .closing := by
  cases lexeme with
  | text run => exact absurd structural Bool.false_ne_true
  | ampersand => exact absurd structural Bool.false_ne_true
  | bar => exact absurd structural Bool.false_ne_true
  | _ => simp

theorem any_isStructural_consText (c : Char) (lexemes : List Lexeme) :
    (consText c lexemes).any isStructural = lexemes.any isStructural := by
  unfold consText
  split <;> rfl

theorem any_isStructural_scan (s : Text) :
    (scan s).any isStructural = true ↔ Structured s := by
  have doubled {c : Char} {s : Text} (single : ∀ t, s = c :: t → False) :
      Text.begins [c, c] (c :: s) = false := by
    rw [← Bool.not_eq_true, Text.begins_iff]
    rintro ⟨rest, same⟩
    exact single rest (List.cons.inj same).2
  fun_induction scan s with
  | case1 => decide
  | case2 s ih => simp [isStructural, structured_cons, Text.begins, Text.after?]
  | case3 s ih => simp [isStructural, structured_cons, Text.begins, Text.after?]
  | case4 s single ih =>
    have other : Text.begins "||".toList ('&' :: s) = false := by simp [Text.begins, Text.after?]
    rw [structured_cons, show Text.begins "&&".toList ('&' :: s) = false from doubled single, other]
    simpa [isStructural] using ih
  | case5 s single ih =>
    have other : Text.begins "&&".toList ('|' :: s) = false := by simp [Text.begins, Text.after?]
    rw [structured_cons, show Text.begins "||".toList ('|' :: s) = false from doubled single, other]
    simpa [isStructural] using ih
  | case6 s ih => simp [isStructural, structured_cons]
  | case7 s ih => simp [isStructural, structured_cons]
  | case8 c s _ _ ampersand bar opening closing ih =>
    have first : Text.begins "&&".toList (c :: s) = false := by
      simp [Text.begins, Text.after?_eq_none_of_head (Ne.symm ampersand)]
    have other : Text.begins "||".toList (c :: s) = false := by
      simp [Text.begins, Text.after?_eq_none_of_head (Ne.symm bar)]
    rw [any_isStructural_consText, structured_cons, first, other]
    simpa [show c ≠ '(' from opening, show c ≠ ')' from closing] using ih

/-- The runs between structural lexemes, each with the lexeme that ends it. -/
def runs (lexemes : List Lexeme) : List (Text × Option Lexeme) :=
  let texts := (lexemes.splitOnP isStructural).map (·.flatMap spelling)
  texts.zip ((lexemes.filter isStructural).map some ++ [none])

/-- The runs that are operands, trimmed: blank ones are not, nor those in front of an opening
parenthesis. -/
def operands (lexemes : List Lexeme) : List Text :=
  let kept := (runs lexemes).filter fun run => run.2 != some .opening
  (kept.map fun run => run.1.trim).filter (· != [])

section Runs
variable {text : List Lexeme} (plain : ∀ lexeme ∈ text, lexeme.isStructural = false)
include plain

theorem runs_of_plain : runs text = [(text.flatMap spelling, none)] := by
  have none : text.filter isStructural = [] := by simpa using plain
  simp [runs, List.splitOnP_eq_singleton plain, none]

theorem runs_append_cons {lexeme : Lexeme} (structural : lexeme.isStructural = true)
    (rest : List Lexeme) :
    runs (text ++ lexeme :: rest) = (text.flatMap spelling, some lexeme) :: runs rest := by
  have none : text.filter isStructural = [] := by simpa using plain
  simp [runs, List.splitOnP_append_cons_of_forall_mem plain _ structural, none, structural]

theorem operands_of_plain :
    operands text = [Text.trim (text.flatMap spelling)].filter (· != []) := by
  simp [operands, runs_of_plain plain]

theorem operands_append_opening (rest : List Lexeme) :
    operands (text ++ opening :: rest) = operands rest := by
  have opens : opening.isStructural = true := rfl
  simp [operands, runs_append_cons plain opens]

theorem operands_append_cons {lexeme : Lexeme} (structural : lexeme.isStructural = true)
    (other : lexeme ≠ opening) (rest : List Lexeme) :
    operands (text ++ lexeme :: rest) =
      [Text.trim (text.flatMap spelling)].filter (· != []) ++ operands rest := by
  have kept : (some lexeme != some opening) = true := by simpa using other
  simp only [operands, runs_append_cons plain structural, List.filter_cons, kept, if_true,
    List.map_cons]
  split <;> rfl

end Runs

theorem operands_cons {lexeme : Lexeme} (structural : lexeme.isStructural = true)
    (rest : List Lexeme) : operands (lexeme :: rest) = operands rest := by
  by_cases opens : lexeme = opening
  · rw [opens]
    exact operands_append_opening (List.forall_mem_nil _) rest
  · exact operands_append_cons (List.forall_mem_nil _) structural opens rest

/-- No parenthesis occurs in the text. -/
def Bare (s : Text) : Prop := '(' ∉ s ∧ ')' ∉ s

instance : DecidablePred Bare := fun _ => inferInstanceAs (Decidable (_ ∧ _))

theorem Bare.append {s t : Text} (hs : Bare s) (ht : Bare t) : Bare (s ++ t) := by
  simp [Bare, hs.1, hs.2, ht.1, ht.2]

theorem bare_of_mem_consText {c : Char} {lexemes : List Lexeme} (own : Bare [c])
    (bare : ∀ lexeme ∈ lexemes, lexeme.isStructural = false → Bare lexeme.spelling) :
    ∀ lexeme ∈ consText c lexemes, lexeme.isStructural = false → Bare lexeme.spelling := by
  unfold consText
  split
  · next run rest =>
    obtain ⟨first, others⟩ := List.forall_mem_cons.mp bare
    exact List.forall_mem_cons.mpr ⟨fun _ => own.append (first rfl), others⟩
  · exact List.forall_mem_cons.mpr ⟨fun _ => own, bare⟩

/-- Text has no parentheses: they are lexemes of their own. -/
theorem bare_of_mem_scan (s : Text) :
    ∀ lexeme ∈ scan s, lexeme.isStructural = false → Bare lexeme.spelling := by
  fun_induction scan s with
  | case1 => exact List.forall_mem_nil _
  | case2 s ih | case3 s ih => exact List.forall_mem_cons.mpr ⟨by decide, ih⟩
  | case4 s _ ih | case5 s _ ih => exact List.forall_mem_cons.mpr ⟨by decide, ih⟩
  | case6 s ih | case7 s ih => exact List.forall_mem_cons.mpr ⟨by decide, ih⟩
  | case8 c s _ _ _ _ opening closing ih =>
    have own : Bare [c] :=
      ⟨fun mem => opening (List.mem_singleton.mp mem).symm,
        fun mem => closing (List.mem_singleton.mp mem).symm⟩
    exact bare_of_mem_consText own ih

theorem bare_of_mem_run {text : List Lexeme} (bare : ∀ lexeme ∈ text, Bare lexeme.spelling) :
    ∀ operand ∈ [Text.trim (text.flatMap spelling)].filter (· != []), Bare operand := by
  intro operand mem
  obtain rfl := List.mem_singleton.mp (List.mem_filter.mp mem).1
  have trimmed := (Text.trim_infix (text.flatMap spelling)).subset
  constructor <;> intro mem <;> obtain ⟨lexeme, own, mem⟩ := List.mem_flatMap.mp (trimmed mem)
  · exact (bare lexeme own).1 mem
  · exact (bare lexeme own).2 mem

theorem bare_of_mem_operands {text : List Lexeme} (lexemes : List Lexeme)
    (plain : ∀ lexeme ∈ text, lexeme.isStructural = false)
    (bare : ∀ lexeme ∈ text ++ lexemes, lexeme.isStructural = false → Bare lexeme.spelling) :
    ∀ operand ∈ operands (text ++ lexemes), Bare operand := by
  induction lexemes generalizing text with
  | nil =>
    rw [List.append_nil] at bare ⊢
    rw [operands_of_plain plain]
    exact bare_of_mem_run fun lexeme mem => bare lexeme mem (plain lexeme mem)
  | cons lexeme lexemes ih =>
    by_cases structural : lexeme.isStructural = true
    · have behind : ∀ operand ∈ operands ([] ++ lexemes), Bare operand :=
        ih (List.forall_mem_nil _)
          fun l mem => bare l (List.mem_append_right _ (List.mem_cons_of_mem _ mem))
      by_cases opens : lexeme = opening
      · rwa [opens, operands_append_opening plain]
      · rw [operands_append_cons plain structural opens]
        have run := bare_of_mem_run fun l mem => bare l (List.mem_append_left _ mem) (plain l mem)
        exact List.forall_mem_append.mpr ⟨run, behind⟩
    · have more : lexeme.isStructural = false := by simpa using structural
      rw [List.append_cons] at bare ⊢
      exact ih (List.forall_mem_append.mpr ⟨plain, by simpa using more⟩) bare

end Lexeme

namespace Rpn

/-- The text of an operand. -/
def operand? : Rpn → Option Text
  | operand text => some text
  | junction _ => none

/-- What went out and what is left of the waiting are its junctions, each once. -/
structure Lets (waiting : List Waiting) (out : List Rpn) (left : List Waiting) : Prop where
  junctions : out.filterMap operand? = []
  count (j : Junction) :
    out.count (.junction j) + left.count (.junction j) = waiting.count (.junction j)

namespace Lets
variable {waiting left : List Waiting} {out : List Rpn}

theorem none (waiting : List Waiting) : Lets waiting [] waiting := ⟨rfl, by simp⟩

theorem opening (h : Lets waiting out left) : Lets (.opening :: waiting) out left where
  junctions := h.junctions
  count j := by simpa using h.count j

theorem junction (h : Lets waiting out left) (k : Junction) :
    Lets (.junction k :: waiting) (.junction k :: out) left where
  junctions := h.junctions
  count j := by
    have count := h.count j
    simp only [List.count_cons]
    by_cases same : k = j
    · subst same
      simp
      omega
    · simp [same]
      omega

end Lets

namespace Yard

theorem lets_release (strength : Nat) (waiting : List Waiting) :
    Lets waiting (release strength waiting).1 (release strength waiting).2 := by
  induction waiting with
  | nil => exact .none []
  | cons w waiting ih =>
    cases w with
    | opening => exact .none _
    | junction j =>
      rw [release]
      split
      · exact ih.junction j
      · exact .none _

theorem lets_close (waiting : List Waiting) :
    Lets waiting (close waiting).1 (close waiting).2 := by
  induction waiting with
  | nil => exact .none []
  | cons w waiting ih =>
    cases w with
    | opening => exact (Lets.none waiting).opening
    | junction j => exact ih.junction j

theorem lets_drain (waiting : List Waiting) : Lets waiting (drain waiting) [] := by
  induction waiting with
  | nil => exact .none []
  | cons w waiting ih =>
    cases w with
    | opening => exact ih.opening
    | junction j => exact ih.junction j

theorem count_operands (pending : Text) (j : Junction) :
    (operands pending).count (.junction j) = 0 := by
  unfold operands
  split <;> rfl

theorem filterMap_operands (pending : Text) :
    (operands pending).filterMap operand? = [pending.trim].filter (· != []) := by
  unfold operands
  split
  · next blank => simp [blank]
  · next text filled => simp [operand?, show (pending.trim != []) = true by simpa using filled]

/-- How often the junction went out or waits. -/
def held (y : Yard) (j : Junction) : Nat :=
  y.output.count (.junction j) + y.waiting.count (.junction j)

theorem held_step (y : Yard) (lexeme : Lexeme) (j : Junction) :
    (y.step lexeme).held j = y.held j + [lexeme].count j.lexeme := by
  have joined (k : Junction) : (y.join k).held j = y.held j + [k.lexeme].count j.lexeme := by
    have count := (lets_release k.strength y.waiting).count j
    simp only [join, held, List.count_append, count_operands, List.count_cons]
    cases k <;> cases j <;> simp [Junction.lexeme] <;> omega
  cases lexeme with
  | and => exact joined .and
  | or => exact joined .or
  | opening => cases j <;> simp [step, held, Junction.lexeme]
  | closing =>
    have count := (lets_close y.waiting).count j
    simp only [step, held, List.count_append, count_operands]
    cases j <;> simp [Junction.lexeme] <;> omega
  | text run => cases j <;> simp [step, held, Junction.lexeme]
  | ampersand => cases j <;> simp [step, held, Junction.lexeme]
  | bar => cases j <;> simp [step, held, Junction.lexeme]

theorem count_finish (y : Yard) (lexemes : List Lexeme) (j : Junction) :
    (lexemes.foldl step y).finish.count (.junction j) = y.held j + lexemes.count j.lexeme := by
  induction lexemes generalizing y with
  | nil =>
    have count := (lets_drain y.waiting).count j
    simp only [List.foldl_nil, finish, List.count_append, count_operands, held, List.count_nil]
      at count ⊢
    omega
  | cons lexeme lexemes ih =>
    rw [List.foldl_cons, ih, held_step, Nat.add_assoc, ← List.count_append, List.singleton_append]

theorem operands_finish {y : Yard} {text : List Lexeme} (lexemes : List Lexeme)
    (plain : ∀ lexeme ∈ text, lexeme.isStructural = false)
    (pending : y.pending = text.flatMap Lexeme.spelling) :
    (lexemes.foldl step y).finish.filterMap operand? =
      y.output.filterMap operand? ++ Lexeme.operands (text ++ lexemes) := by
  induction lexemes generalizing y text with
  | nil =>
    simp [finish, filterMap_operands, (lets_drain y.waiting).junctions, pending,
      Lexeme.operands_of_plain plain]
  | cons lexeme lexemes ih =>
    have emptied {y' : Yard} (empty : y'.pending = []) :
        (lexemes.foldl step y').finish.filterMap operand? =
          y'.output.filterMap operand? ++ Lexeme.operands ([] ++ lexemes) :=
      ih (List.forall_mem_nil _) empty
    rw [List.nil_append] at emptied
    have joined (j : Junction) : (lexemes.foldl step (y.join j)).finish.filterMap operand? =
        y.output.filterMap operand? ++ Lexeme.operands (text ++ j.lexeme :: lexemes) := by
      have junctions := (lets_release j.strength y.waiting).junctions
      have other : j.lexeme ≠ .opening := by cases j <;> decide
      rw [emptied rfl, Lexeme.operands_append_cons plain (Lexeme.isStructural_lexeme j) other]
      simp [join, filterMap_operands, junctions, pending]
    rw [List.foldl_cons]
    by_cases structural : lexeme.isStructural = true
    · obtain rfl | rfl | rfl | rfl := Lexeme.eq_of_isStructural structural
      · exact joined .and
      · exact joined .or
      · rw [emptied rfl, Lexeme.operands_append_opening plain, step]
      · have junctions := (lets_close y.waiting).junctions
        rw [emptied rfl, Lexeme.operands_append_cons plain structural (by decide)]
        simp [step, filterMap_operands, junctions, pending]
    · have more : lexeme.isStructural = false := by simpa using structural
      have longer : ∀ l ∈ text ++ [lexeme], l.isStructural = false :=
        List.forall_mem_append.mpr ⟨plain, List.forall_mem_singleton.mpr more⟩
      have spelled : y.pending ++ lexeme.spelling = (text ++ [lexeme]).flatMap Lexeme.spelling := by
        simp [pending]
      rw [step_of_text more, List.append_cons]
      exact ih longer spelled

end Yard

theorem ofCondition_of_structured {s : Text} (structured : Structured s) :
    ofCondition s = shunt (Lexeme.scan s) :=
  if_pos ((Lexeme.any_isStructural_scan s).mpr structured)

theorem ofCondition_of_not_structured {s : Text} (loose : ¬Structured s) :
    ofCondition s = [.operand s] :=
  if_neg fun any => loose ((Lexeme.any_isStructural_scan s).mp any)

/-- Of a condition with structure, balanced or not, the yard puts out each junction once and as
operands, in order, the trimmed runs of text that no parenthesis opens behind; no parenthesis. -/
theorem ofCondition_conserves {s : Text} (structured : Structured s) :
    let lexemes := Lexeme.scan s
    (∀ j, (ofCondition s).count (.junction j) = lexemes.count j.lexeme) ∧
      (ofCondition s).filterMap operand? = Lexeme.operands lexemes ∧
      ∀ element ∈ ofCondition s, '(' ∉ element.spelling ∧ ')' ∉ element.spelling := by
  intro lexemes
  have shunted : ofCondition s = shunt lexemes := ofCondition_of_structured structured
  have operands : (ofCondition s).filterMap operand? = Lexeme.operands lexemes := by
    rw [shunted]
    exact Yard.operands_finish lexemes (List.forall_mem_nil _) rfl
  refine ⟨fun j => ?_, operands, fun element mem => ?_⟩
  · rw [shunted, shunt, Yard.count_finish]
    exact Nat.zero_add _
  · cases element with
    | junction j => cases j <;> decide
    | operand text =>
      have own : text ∈ Lexeme.operands lexemes :=
        operands ▸ List.mem_filterMap.mpr ⟨.operand text, mem, rfl⟩
      have bare : ∀ operand ∈ Lexeme.operands ([] ++ lexemes), Lexeme.Bare operand :=
        Lexeme.bare_of_mem_operands lexemes (List.forall_mem_nil _) (Lexeme.bare_of_mem_scan s)
      exact bare text own

/-- Parentheses of both kinds that have no partner, text in front of one, and a junction that
lacks an operand. -/
theorem ofCondition_conserves_stray :
    let s := "A (B & C || ) && && D) | |||((".toList
    let output := ofCondition s
    Structured s ∧ output.filterMap operand? = ["B & C".toList, "D".toList, ['|']] ∧
      (∀ j, output.count (.junction j) = 2) ∧
      ∀ element ∈ output, '(' ∉ element.spelling ∧ ')' ∉ element.spelling := by
  intro s output
  have structured : Structured s := by decide
  obtain ⟨junctions, operands, bare⟩ := ofCondition_conserves structured
  have listed : Lexeme.operands (Lexeme.scan s) = ["B & C".toList, "D".toList, ['|']] := by decide
  have twice (j : Junction) : (Lexeme.scan s).count j.lexeme = 2 := by cases j <;> decide
  exact ⟨structured, operands.trans listed, fun j => (junctions j).trans (twice j), bare⟩

end Rpn
end ShaderPrep.Guard
