import ShaderPrep.Include.Directive
import ShaderPrep.Proofs.Text.Laws

/-! Directives that have a line for themselves. A directive without marks inside its parts is read
back from its text whatever line follows, and no directive is read where the keyword is missing. -/
namespace ShaderPrep.Include

/-- No mark that delimits a part of a directive occurs, and no line ends. -/
def Unmarked (s : Text) : Prop := ∀ c ∈ s, c ∉ "<>()[]\n".toList

instance (s : Text) : Decidable (Unmarked s) := List.decidableBAll _ s

theorem Unmarked.not_mem {s : Text} (h : Unmarked s) {c : Char} (mark : c ∈ "<>()[]\n".toList) :
    c ∉ s :=
  fun mem => h c mem mark

/-- What may stand between a directive and the end of its line: carriage returns. -/
def LineEnd (s : Text) : Prop := ∀ c ∈ s, c = '\r'

instance (s : Text) : Decidable (LineEnd s) := List.decidableBAll _ s

theorem LineEnd.not_mem {s : Text} (h : LineEnd s) {c : Char} (other : c ≠ '\r') : c ∉ s :=
  fun mem => other (h c mem)

theorem LineEnd.append {s t : Text} (hs : LineEnd s) (ht : LineEnd t) : LineEnd (s ++ t) := by
  intro c mem
  rcases List.mem_append.mp mem with mem | mem
  · exact hs c mem
  · exact ht c mem

namespace Directive

/-- The directive is spelled with one space or none behind the keyword, and its parts have no
marks inside. -/
structure Proper (d : Directive) : Prop where
  spelled : ∃ blank, (blank = [] ∨ blank = [' ']) ∧ d.text = keyword ++ blank ++
    part '<' '>' (some d.name) ++ part '(' ')' d.replacements ++ part '[' ']' d.range
  named : d.name ≠ []
  name : Unmarked d.name
  replacements : ∀ s ∈ d.replacements, Unmarked s
  range : ∀ s ∈ d.range, Unmarked s

/-- The directive with these parts. -/
def ofParts (blank name : Text) (replacements range : Option Text) : Directive where
  text := keyword ++ blank ++ part '<' '>' (some name) ++ part '(' ')' replacements ++
    part '[' ']' range
  name := name
  replacements := replacements
  range := range

theorem proper_iff {d : Directive} :
    d.Proper ↔
      (∃ blank ∈ [[], [' ']], d.text = (ofParts blank d.name d.replacements d.range).text) ∧
        d.name ≠ [] ∧ Unmarked d.name ∧ (∀ s ∈ d.replacements, Unmarked s) ∧
        ∀ s ∈ d.range, Unmarked s := by
  constructor
  · intro h
    obtain ⟨blank, kind, spelled⟩ := h.spelled
    exact ⟨⟨blank, by simpa using kind, spelled⟩, h.named, h.name, h.replacements, h.range⟩
  · rintro ⟨⟨blank, kind, spelled⟩, named, name, replacements, range⟩
    exact ⟨⟨blank, by simpa using kind, spelled⟩, named, name, replacements, range⟩

instance (d : Directive) : Decidable d.Proper := decidable_of_iff' _ proper_iff

/-- The directive is all there is on the line. -/
def Alone (d : Directive) (line : Text) : Prop :=
  d.Proper ∧ ∃ ending, LineEnd ending ∧ line = d.text ++ ending

end Directive

theorem not_mem_part {opening closing c : Char} {inner : Option Text} (first : c ≠ opening)
    (last : c ≠ closing) (inside : ∀ s ∈ inner, c ∉ s) : c ∉ part opening closing inner := by
  cases inner with
  | none => exact List.not_mem_nil
  | some s =>
    have absent := inside s rfl
    simp [part, first, last, absent]

/-- A part that is not closed again behind it is found again. -/
theorem enclosed_part {opening closing : Char} {rest : Text} {inner : Option Text}
    (closed : inner.isSome = true → closing ∉ rest) (first : rest.head? ≠ some opening) :
    enclosed opening closing (part opening closing inner ++ rest) = (inner, rest) := by
  cases inner with
  | none =>
    cases rest with
    | nil => rfl
    | cons c rest =>
      have other : c ≠ opening := fun same => first (congrArg some same)
      simp only [part, List.nil_append, enclosed, if_neg other]
  | some inner =>
    have cut : Text.cutLast? [closing] (inner ++ [closing] ++ rest) = some (inner, rest) := by
      rw [List.append_assoc]
      exact Text.cutLast?_append (closed rfl) inner
    simp only [part, List.cons_append, enclosed, if_true, cut]

/-- The text ends, or a new line starts in it. -/
def NewLine (t : Text) : Prop := ∀ c ∈ t.head?, c = '\n'

theorem newLine_nil : NewLine [] := fun _ mem => nomatch mem

theorem newLine_cons (t : Text) : NewLine ('\n' :: t) := by
  intro c mem
  exact (Option.some.inj mem).symm

theorem NewLine.takeWhile_append {line t : Text} (h : NewLine t) (inside : '\n' ∉ line) :
    (line ++ t).takeWhile (· ≠ '\n') = line := by
  have keep : ∀ c ∈ line, decide (c ≠ '\n') = true := by
    intro c mem
    rw [decide_eq_true_eq]
    rintro rfl
    exact inside mem
  have stop : t.takeWhile (· ≠ '\n') = [] := by
    cases t with
    | nil => rfl
    | cons c t =>
      obtain rfl := h c rfl
      rfl
  rw [List.takeWhile_append_of_pos keep, stop, List.append_nil]

/-- A directive is read from what follows its opening mark: the name goes on to the last mark on the
line that can close it, and the other parts are taken from the rest of the line. -/
theorem Directive.read?_of_cut {blank s name rest : Text}
    (spaced : optionalBlank (blank ++ '<' :: s) = (blank, '<' :: s)) (filled : name ≠ [])
    (cut : Text.cutLast? ['>'] (s.takeWhile (· ≠ '\n')) = some (name, rest)) :
    read? (keyword ++ (blank ++ '<' :: s)) = some (ofParts blank name (enclosed '(' ')' rest).1
      (enclosed '[' ']' (enclosed '(' ')' rest).2).1) := by
  have opening : Text.after? ['<'] ('<' :: s) = some s := Text.after?_append ['<'] s
  rw [read?]
  simp only [Text.after?_append, Option.bind_eq_bind, Option.bind_some, spaced, opening, cut,
    if_neg filled]
  rfl

namespace Directive.Proper
variable {d : Directive}

theorem exists_eq_ofParts (h : d.Proper) :
    ∃ blank, (∀ s, optionalBlank (blank ++ '<' :: s) = (blank, '<' :: s)) ∧
      d = ofParts blank d.name d.replacements d.range ∧
      ∀ t, d.text ++ t = keyword ++ (blank ++ '<' ::
        (d.name ++ '>' :: (part '(' ')' d.replacements ++ (part '[' ']' d.range ++ t)))) := by
  obtain ⟨blank, spaced, spelled⟩ := h.spelled
  refine ⟨blank, fun s => ?_, ?_, fun t => ?_⟩
  · rcases spaced with rfl | rfl
    · rfl
    · rfl
  · obtain ⟨text, name, replacements, range⟩ := d
    exact congrArg (Directive.mk · name replacements range) spelled
  · rw [spelled]
    simp [part]

theorem not_mem_range (h : d.Proper) {ending : Text} (end_ : LineEnd ending) {c : Char}
    (mark : c ∈ "<>()[]\n".toList) (first : c ≠ '[') (last : c ≠ ']') :
    c ∉ part '[' ']' d.range ++ ending := by
  intro mem
  rcases List.mem_append.mp mem with mem | mem
  · exact not_mem_part first last (fun s is => (h.range s is).not_mem mark) mem
  · obtain rfl := end_ c mem
    exact absurd mark (by decide)

/-- What follows the name of a directive on its line. -/
theorem not_mem_tail (h : d.Proper) {ending : Text} (end_ : LineEnd ending) {c : Char}
    (mark : c ∈ "<>()[]\n".toList) (other : c ∉ ['(', ')', '[', ']']) :
    c ∉ part '(' ')' d.replacements ++ (part '[' ']' d.range ++ ending) := by
  simp only [List.mem_cons, List.not_mem_nil, or_false, not_or] at other
  obtain ⟨round, round', square, square'⟩ := other
  intro mem
  rcases List.mem_append.mp mem with mem | mem
  · exact not_mem_part round round' (fun s is => (h.replacements s is).not_mem mark) mem
  · exact h.not_mem_range end_ mark square square' mem

theorem newLine_notMem_behind (h : d.Proper) {ending : Text} (end_ : LineEnd ending) :
    '\n' ∉ d.name ++ '>' :: (part '(' ')' d.replacements ++ (part '[' ']' d.range ++ ending)) := by
  intro mem
  rcases List.mem_append.mp mem with mem | mem
  · exact h.name.not_mem (by decide) mem
  rcases List.mem_cons.mp mem with mem | mem
  · exact absurd mem (by decide)
  · exact h.not_mem_tail end_ (by decide) (by decide) mem

theorem enclosed_replacements (h : d.Proper) {ending : Text} (end_ : LineEnd ending) :
    enclosed '(' ')' (part '(' ')' d.replacements ++ (part '[' ']' d.range ++ ending)) =
      (d.replacements, part '[' ']' d.range ++ ending) := by
  refine enclosed_part (fun _ => h.not_mem_range end_ (by decide) (by decide) (by decide)) ?_
  intro head
  have mem := List.mem_of_mem_head? head
  exact h.not_mem_range end_ (by decide) (by decide) (by decide) mem

theorem enclosed_range {ending : Text} (end_ : LineEnd ending) (range : Option Text) :
    enclosed '[' ']' (part '[' ']' range ++ ending) = (range, ending) := by
  refine enclosed_part (fun _ => end_.not_mem (by decide)) fun head => ?_
  exact end_.not_mem (by decide) (List.mem_of_mem_head? head)

/-- A directive is read back from its text at the end of a line. -/
theorem read?_append (h : d.Proper) {ending t : Text} (end_ : LineEnd ending) (new : NewLine t) :
    Directive.read? (d.text ++ (ending ++ t)) = some d := by
  obtain ⟨blank, spaced, same, text⟩ := h.exists_eq_ofParts
  let behind := d.name ++ '>' :: (part '(' ')' d.replacements ++ (part '[' ']' d.range ++ ending))
  have line : (behind ++ t).takeWhile (· ≠ '\n') = behind :=
    new.takeWhile_append (h.newLine_notMem_behind end_)
  have cut : Text.cutLast? ['>'] ((behind ++ t).takeWhile (· ≠ '\n')) =
      some (d.name, part '(' ')' d.replacements ++ (part '[' ']' d.range ++ ending)) := by
    rw [line]
    exact Text.cutLast?_append (h.not_mem_tail end_ (by decide) (by decide)) d.name
  have whole : d.text ++ (ending ++ t) = keyword ++ (blank ++ '<' :: (behind ++ t)) := by
    rw [text]
    simp [behind]
  rw [whole, read?_of_cut (spaced _) h.named cut, h.enclosed_replacements end_, enclosed_range end_]
  exact congrArg some same.symm

end Directive.Proper

theorem Directive.read?_eq_none {s : Text} (h : Text.after? keyword s = none) :
    Directive.read? s = none := by
  rw [Directive.read?, h]
  rfl

theorem Directive.read?_eq_none_of_head {c : Char} (h : '#' ≠ c) (s : Text) :
    Directive.read? (c :: s) = none :=
  Directive.read?_eq_none (Text.after?_eq_none_of_head h)

/-- No directive starts in a line without the keyword. -/
theorem Directive.read?_eq_none_of_suffix {line v t : Text}
    (absent : Text.occurs keyword line = false) (new : NewLine t) (suffix : v <:+ line) :
    Directive.read? (v ++ t) = none := by
  refine Directive.read?_eq_none ?_
  have apart : Text.occurs keyword v = false := by
    obtain ⟨u, rfl⟩ := suffix
    refine Bool.eq_false_iff.mpr fun found => ?_
    exact ne_true_of_eq_false absent (Text.occurs_append_right found u)
  cases found : Text.after? keyword (v ++ t) with
  | none => rfl
  | some rest =>
    rcases List.append_eq_append_iff.mp (Text.after?_eq_some.mp found) with
      ⟨a, spelled, behind⟩ | ⟨a, spelled, -⟩
    · cases a with
      | nil =>
        have whole : Text.occurs keyword v = true := by
          rw [List.append_nil] at spelled
          rw [← spelled]
          decide
        exact absurd whole (ne_true_of_eq_false apart)
      | cons c a =>
        obtain rfl := new c (by rw [behind]; rfl)
        have mem : '\n' ∈ keyword := spelled ▸ List.mem_append_right v List.mem_cons_self
        exact absurd mem (by decide)
    · have start : Text.occurs keyword v = true := Text.occurs_iff.mpr ⟨[], a, spelled⟩
      exact absurd start (ne_true_of_eq_false apart)

theorem LineEnd.read?_eq_none {ending v : Text} (h : LineEnd ending) (filled : v ≠ [])
    (suffix : v <:+ ending) (t : Text) : Directive.read? (v ++ t) = none := by
  obtain ⟨c, v, rfl⟩ := List.exists_cons_of_ne_nil filled
  obtain rfl := h c (suffix.subset List.mem_cons_self)
  exact Directive.read?_eq_none_of_head (by decide) (v ++ t)

namespace Directive.Alone
variable {d d' : Directive} {line : Text}

theorem read? (h : d.Alone line) : Directive.read? line = some d := by
  obtain ⟨proper, ending, end_, rfl⟩ := h
  have read := proper.read?_append end_ newLine_nil
  rwa [List.append_nil] at read

theorem unique (h : d.Alone line) (h' : d'.Alone line) : d = d' :=
  Option.some.inj (h.read?.symm.trans h'.read?)

theorem eq_append (h : d.Alone line) :
    ∃ blank rest, (blank = [] ∨ blank = [' ']) ∧ line = keyword ++ blank ++ ['<'] ++ rest := by
  obtain ⟨⟨⟨blank, spaced, spelled⟩, -, -, -, -⟩, ending, -, rfl⟩ := h
  refine ⟨blank, d.name ++ '>' :: (part '(' ')' d.replacements ++ part '[' ']' d.range ++ ending),
    spaced, ?_⟩
  rw [spelled]
  simp [part]

theorem occurs_keyword (h : d.Alone line) : Text.occurs keyword line = true := by
  obtain ⟨blank, rest, spaced, rfl⟩ := h.eq_append
  refine Text.occurs_append_left ?_ rest
  rcases spaced with rfl | rfl
  · decide
  · decide

theorem occurs_opening (h : d.Alone line) :
    Text.occurs "#include<".toList line = true ∨ Text.occurs "#include <".toList line = true := by
  obtain ⟨blank, rest, spaced, rfl⟩ := h.eq_append
  rcases spaced with rfl | rfl
  · exact .inl (Text.occurs_append_left (by decide) rest)
  · exact .inr (Text.occurs_append_left (by decide) rest)

theorem newLine_not_mem (h : d.Alone line) : '\n' ∉ line := by
  obtain ⟨proper, ending, end_, rfl⟩ := h
  obtain ⟨blank, spaced, spelled⟩ := proper.spelled
  have start : '\n' ∉ keyword ++ blank ++ part '<' '>' (some d.name) := by
    intro mem
    rcases List.mem_append.mp mem with mem | mem
    · rcases spaced with rfl | rfl
      · exact absurd mem (by decide)
      · exact absurd mem (by decide)
    · refine not_mem_part (by decide) (by decide) (fun s is => ?_) mem
      obtain rfl := Option.some.inj is
      exact proper.name.not_mem (by decide)
  have tail := proper.not_mem_tail end_ (c := '\n') (by decide) (by decide)
  have whole : d.text ++ ending = keyword ++ blank ++ part '<' '>' (some d.name) ++
      (part '(' ')' d.replacements ++ (part '[' ']' d.range ++ ending)) := by
    rw [spelled]
    simp
  intro mem
  rcases List.mem_append.mp (whole ▸ mem) with mem | mem
  · exact start mem
  · exact tail mem

theorem append (h : d.Alone line) {ending : Text} (end_ : LineEnd ending) :
    d.Alone (line ++ ending) := by
  obtain ⟨proper, ending', end', rfl⟩ := h
  exact ⟨proper, ending' ++ ending, end'.append end_, List.append_assoc ..⟩

end Directive.Alone

/-- No directive ends in a carriage return. -/
theorem Directive.Proper.getLast_ne {d : Directive} (h : d.Proper) {s : Text}
    (e : d.text = s ++ ['\r']) : False := by
  obtain ⟨blank, -, spelled⟩ := h.spelled
  have last (opening closing : Char) (inner : Text) :
      (part opening closing (some inner)).getLast? = some closing := by
    rw [part, List.getLast?_append]
    rfl
  have end_ : d.text.getLast? = some '\r' := by rw [e, List.getLast?_concat]
  rw [spelled, List.getLast?_append, List.getLast?_append, List.getLast?_append, last] at end_
  cases range : d.range with
  | some inner =>
    rw [range, last] at end_
    exact absurd (Option.some.inj end_) (by decide)
  | none =>
    cases replacements : d.replacements with
    | some inner =>
      rw [range, replacements, last] at end_
      exact absurd (Option.some.inj end_) (by decide)
    | none =>
      rw [range, replacements] at end_
      exact absurd (Option.some.inj end_) (by decide)

/-- Carriage returns may be taken off the line of a directive. -/
theorem Directive.Alone.of_append {d : Directive} {line ending : Text}
    (h : d.Alone (line ++ ending)) (end_ : LineEnd ending) : d.Alone line := by
  obtain ⟨proper, ending', end', same⟩ := h
  rcases List.append_eq_append_iff.mp same with ⟨a, text, last⟩ | ⟨a, rfl, rfl⟩
  · cases reversed : a.reverse with
    | nil =>
      obtain rfl := List.reverse_eq_nil_iff.mp reversed
      refine ⟨proper, [], fun _ mem => ?_, by rw [text, List.append_nil, List.append_nil]⟩
      exact absurd mem List.not_mem_nil
    | cons c r =>
      have spelled : a = r.reverse ++ [c] := by
        rw [← List.reverse_reverse a, reversed, List.reverse_cons]
      have mem : c ∈ ending := by simp [last, spelled]
      obtain rfl := end_ c mem
      exact (proper.getLast_ne (s := line ++ r.reverse) (by rw [text, spelled]; simp)).elim
  · exact ⟨proper, a, fun c mem => end' c (List.mem_append_left _ mem), rfl⟩

end ShaderPrep.Include
