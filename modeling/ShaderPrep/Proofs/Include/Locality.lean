import ShaderPrep.Proofs.Include.Directive
import ShaderPrep.Proofs.Include.Split

/-! Directives with more behind them. Every part of a directive goes on to the last mark on the line
that can close it, so what stands behind a directive on its line decides whether it is read as it
was written; what stands on later lines never does. -/
namespace ShaderPrep.Include

/-- What a text has of the line that it starts in. -/
def firstLine (t : Text) : Text := t.takeWhile (· ≠ '\n')

/-- The text does not start with a part of a directive. -/
def Detached (t : Text) : Prop := t.head? ≠ some '(' ∧ t.head? ≠ some '['

instance (t : Text) : Decidable (Detached t) :=
  inferInstanceAs (Decidable (t.head? ≠ some '(' ∧ t.head? ≠ some '['))

theorem firstLine_cons {c : Char} (other : c ≠ '\n') (t : Text) :
    firstLine (c :: t) = c :: firstLine t :=
  List.takeWhile_cons_of_pos (decide_eq_true other)

theorem firstLine_append {line : Text} (single : '\n' ∉ line) (t : Text) :
    firstLine (line ++ t) = line ++ firstLine t := by
  refine List.takeWhile_append_of_pos fun c mem => ?_
  rw [decide_eq_true_eq]
  rintro rfl
  exact single mem

theorem head?_firstLine_ne {t : Text} {c : Char} (h : t.head? ≠ some c) :
    (firstLine t).head? ≠ some c := by
  intro head
  cases t with
  | nil => cases head
  | cons d t =>
    rw [firstLine, List.takeWhile_cons] at head
    split at head
    · exact h head
    · cases head

namespace Directive

/-- No mark that could close a part of the directive comes again on the line behind it. -/
def Closed (d : Directive) (t : Text) : Prop :=
  '>' ∉ firstLine t ∧ (d.replacements.isSome = true → ')' ∉ firstLine t) ∧
    (d.range.isSome = true → ']' ∉ firstLine t)

instance (d : Directive) (t : Text) : Decidable (d.Closed t) :=
  inferInstanceAs (Decidable ('>' ∉ firstLine t ∧
    (d.replacements.isSome = true → ')' ∉ firstLine t) ∧
    (d.range.isSome = true → ']' ∉ firstLine t)))

end Directive

section Parts
variable {opening closing : Char} {rest : Text} {inner : Option Text}

/-- A part that is closed again behind it is found to be longer. -/
theorem enclosed_part_ne (some_ : inner.isSome = true) (again : closing ∈ rest) :
    (enclosed opening closing (part opening closing inner ++ rest)).1 ≠ inner := by
  obtain ⟨s, rfl⟩ := Option.isSome_iff_exists.mp some_
  obtain ⟨u, v, rfl, last⟩ := Text.exists_last_of_mem again
  have cut : Text.cutLast? [closing] (s ++ [closing] ++ (u ++ closing :: v)) =
      some (s ++ [closing] ++ u, v) := by
    rw [← List.append_assoc]
    exact Text.cutLast?_append last _
  simp only [part, List.cons_append, enclosed, if_true, cut]
  intro same
  have size := congrArg List.length (Option.some.inj same)
  simp only [List.length_append, List.length_singleton] at size
  omega

end Parts

namespace Directive
variable {d : Directive} {t : Text}

theorem ofParts_inj {blank name name' : Text}
    {replacements replacements' range range' : Option Text} :
    ofParts blank name replacements range = ofParts blank name' replacements' range' ↔
      name = name' ∧ replacements = replacements' ∧ range = range' := by
  constructor
  · intro same
    exact ⟨congrArg Directive.name same, congrArg Directive.replacements same,
      congrArg Directive.range same⟩
  · rintro ⟨rfl, rfl, rfl⟩
    rfl

/-- Behind the name, the parts are found again exactly if none of them is closed again. -/
theorem Proper.enclosed_parts_iff (h : d.Proper) (detached : Detached t) :
    let replaced := enclosed '(' ')'
      (part '(' ')' d.replacements ++ (part '[' ']' d.range ++ firstLine t))
    (replaced.1 = d.replacements ∧ (enclosed '[' ']' replaced.2).1 = d.range) ↔
      (d.replacements.isSome = true → ')' ∉ firstLine t) ∧
        (d.range.isSome = true → ']' ∉ firstLine t) := by
  intro replaced
  have round : ')' ∈ part '[' ']' d.range ++ firstLine t ↔ ')' ∈ firstLine t := by
    have outside : ')' ∉ part '[' ']' d.range :=
      not_mem_part (by decide) (by decide) fun s is => (h.range s is).not_mem (by decide)
    rw [List.mem_append, or_iff_right outside]
  have first : (part '[' ']' d.range ++ firstLine t).head? ≠ some '(' := by
    cases d.range with
    | none => exact head?_firstLine_ne detached.1
    | some s => exact fun head => absurd (Option.some.inj head) (by decide)
  by_cases closed : d.replacements.isSome = true → ')' ∉ firstLine t
  · have found : replaced = (d.replacements, part '[' ']' d.range ++ firstLine t) :=
      enclosed_part (fun some_ => (not_congr round).mpr (closed some_)) first
    rw [found]
    refine (and_iff_right rfl).trans ?_
    by_cases closed' : d.range.isSome = true → ']' ∉ firstLine t
    · rw [enclosed_part closed' (head?_firstLine_ne detached.2)]
      exact iff_of_true rfl ⟨closed, closed'⟩
    · obtain ⟨some_, again⟩ := Classical.not_imp.mp closed'
      exact iff_of_false (enclosed_part_ne some_ (Classical.not_not.mp again)) fun h => closed' h.2
  · obtain ⟨some_, again⟩ := Classical.not_imp.mp closed
    have longer : replaced.1 ≠ d.replacements :=
      enclosed_part_ne some_ (round.mpr (Classical.not_not.mp again))
    exact iff_of_false (fun h => longer h.1) fun h => closed h.1

/-- What stands behind the opening mark of a directive, up to the end of the line. -/
theorem Proper.firstLine_behind (h : d.Proper) (t : Text) :
    firstLine (d.name ++ '>' :: (part '(' ')' d.replacements ++ (part '[' ']' d.range ++ t))) =
      d.name ++ '>' :: (part '(' ')' d.replacements ++ (part '[' ']' d.range ++ firstLine t)) := by
  have single := h.newLine_notMem_behind (show LineEnd [] by decide)
  have line := firstLine_append single t
  simpa using line

/-- A directive whose name is not closed again is read with this name, and as it is exactly if its
other parts are not closed again either. -/
theorem Proper.read?_of_closed (h : d.Proper) (detached : Detached t) (once : '>' ∉ firstLine t) :
    ∃ e, read? (d.text ++ t) = some e ∧ (e = d ↔ d.Closed t) := by
  obtain ⟨blank, spaced, same, text⟩ := h.exists_eq_ofParts
  have tail : '>' ∉ part '(' ')' d.replacements ++ (part '[' ']' d.range ++ firstLine t) := by
    have inside := h.not_mem_tail (c := '>') (show LineEnd [] by decide) (by decide) (by decide)
    rw [List.append_nil] at inside
    rw [← List.append_assoc, List.mem_append, not_or]
    exact ⟨inside, once⟩
  have cut : Text.cutLast? ['>'] (firstLine (d.name ++ '>' ::
      (part '(' ')' d.replacements ++ (part '[' ']' d.range ++ t)))) =
        some (d.name, part '(' ')' d.replacements ++ (part '[' ']' d.range ++ firstLine t)) := by
    rw [h.firstLine_behind]
    exact Text.cutLast?_append tail d.name
  refine ⟨_, (congrArg read? (text t)).trans (read?_of_cut (spaced _) h.named cut), ?_⟩
  conv => lhs; rhs; rw [same]
  refine ofParts_inj.trans ((and_iff_right rfl).trans ?_)
  exact (h.enclosed_parts_iff detached).trans (and_iff_right once).symm

/-- A directive whose name is closed again takes all up to the last mark that does so. -/
theorem Proper.read?_of_reclosed (h : d.Proper) (again : '>' ∈ firstLine t) :
    ∃ e u v, read? (d.text ++ t) = some e ∧ e ≠ d ∧ firstLine t = u ++ '>' :: v ∧
      d.text ++ (u ++ ['>']) <+: e.text := by
  obtain ⟨blank, spaced, same, text⟩ := h.exists_eq_ofParts
  obtain ⟨u, v, spelled, last⟩ := Text.exists_last_of_mem again
  have cut : Text.cutLast? ['>'] (firstLine (d.name ++ '>' ::
      (part '(' ')' d.replacements ++ (part '[' ']' d.range ++ t)))) =
        some (d.name ++ '>' :: (part '(' ')' d.replacements ++ (part '[' ']' d.range ++ u)),
          v) := by
    rw [h.firstLine_behind, spelled, Text.cutLast?_eq_some]
    exact ⟨by simp, last⟩
  refine ⟨_, u, v, (congrArg read? (text t)).trans (read?_of_cut (spaced _) (by simp) cut),
    fun own => ?_, spelled, ?_⟩
  · have size := congrArg (List.length ∘ Directive.name) own
    simp only [Function.comp_apply, ofParts, List.length_append, List.length_cons] at size
    omega
  · rw [text]
    simp [ofParts, part]

/-- What is read where a directive stands with any text behind it is this directive only if it is
closed there. -/
theorem Proper.exists_read? (h : d.Proper) (detached : Detached t) :
    ∃ e, read? (d.text ++ t) = some e ∧ (e = d ↔ d.Closed t) := by
  by_cases again : '>' ∈ firstLine t
  · obtain ⟨e, u, v, read, other, -⟩ := h.read?_of_reclosed again
    exact ⟨e, read, iff_of_false other fun closed => closed.1 again⟩
  · exact h.read?_of_closed detached again

end Directive

section Scan
variable {d d' : Directive} {t : Text}

/-- A text that starts with a directive, and what is found behind this. -/
theorem scan_of_read? {s : Text} (h : Directive.read? s = some d) :
    ∃ rest, s = d.text ++ rest ∧ scan s = (d, 0, Text.byteSize d.text) ::
      spans (Text.byteSize d.text) (split rest).1 := by
  obtain ⟨rest, rfl⟩ := Directive.read?_eq_append h
  refine ⟨rest, rfl, ?_⟩
  rw [scan, split_directive h]
  simp [spans]

/-- What the scan of a text puts first is what the text starts with. -/
theorem head?_scan_eq_iff {s : Text} {e : Directive} (h : Directive.read? s = some e) :
    (scan s).head? = some (d, 0, Text.byteSize d.text) ↔ e = d := by
  obtain ⟨rest, -, found⟩ := scan_of_read? h
  rw [found, List.head?_cons, Option.some.injEq, Prod.mk.injEq]
  refine ⟨And.left, ?_⟩
  rintro rfl
  exact ⟨rfl, rfl⟩

theorem Directive.Proper.alone (h : d.Proper) : d.Alone d.text :=
  ⟨h, [], by decide, (List.append_nil d.text).symm⟩

theorem Directive.Proper.scan_text (h : d.Proper) :
    scan d.text = [(d, 0, Text.byteSize d.text)] := by
  obtain ⟨rest, whole, found⟩ := scan_of_read? h.alone.read?
  obtain rfl : rest = [] := by
    have size := congrArg List.length whole
    rw [List.length_append] at size
    exact List.eq_nil_of_length_eq_zero (by omega)
  exact found

/-- Pieces are found behind the offset that they are counted from. -/
theorem le_of_mem_spans {pieces : List Piece} {offset start stop : Nat}
    (h : (d, start, stop) ∈ spans offset pieces) : offset ≤ start := by
  induction pieces generalizing offset with
  | nil => contradiction
  | cons piece pieces ih =>
    rw [spans] at h
    rcases List.mem_cons.mp h with here | behind
    · obtain ⟨-, same⟩ := Prod.mk.inj here
      have start_ := (Prod.mk.inj same).1
      omega
    · have further := ih behind
      omega

/-- Behind a line end, a directive is found if it is closed. -/
theorem scan_newLine_iff (h : d.Proper) (h' : d'.Proper) (detached : Detached t) :
    let start := Text.byteSize d.text + 1
    (scan (d.text ++ '\n' :: (d'.text ++ t)))[1]? =
      some (d', start, start + Text.byteSize d'.text) ↔ d'.Closed t := by
  intro start
  obtain ⟨e, read, own⟩ := h'.exists_read? detached
  have first : Directive.read? (d.text ++ '\n' :: (d'.text ++ t)) = some d :=
    h.read?_append (show LineEnd [] by decide) (newLine_cons _)
  obtain ⟨rest, whole, behind⟩ := scan_of_read? first
  obtain rfl := List.append_cancel_left whole
  obtain ⟨rest', whole'⟩ := Directive.read?_eq_append read
  have cut : (split ('\n' :: (d'.text ++ t))).1 = ⟨['\n'], e⟩ :: (split rest').1 := by
    rw [split_cons (Directive.read?_eq_none_of_head (by decide) _)]
    rw [whole'] at read ⊢
    rw [split_directive read]
    rfl
  rw [behind, cut, ← own, List.getElem?_cons_succ, spans, List.getElem?_cons_zero,
    Option.some.injEq, Prod.mk.injEq]
  refine ⟨And.left, ?_⟩
  rintro rfl
  exact ⟨rfl, rfl⟩

/-- On the same line a directive is not found: the one before takes in all of its name. -/
theorem scan_sameLine_ne (h : d.Proper) (h' : d'.Proper) {b : Char}
    (blank : Unicode.isBlank b = true) (inside : b ≠ '\n') :
    let start := Text.byteSize d.text + b.utf8Size
    (scan (d.text ++ b :: (d'.text ++ t)))[1]? ≠
      some (d', start, start + Text.byteSize d'.text) := by
  intro start same
  have again : '>' ∈ firstLine (b :: (d'.text ++ t)) := by
    have named : '>' ∈ d'.text := by
      obtain ⟨blank', -, -, text⟩ := h'.exists_eq_ofParts
      rw [← List.append_nil d'.text, text]
      simp
    rw [firstLine_cons inside, firstLine_append h'.alone.newLine_not_mem]
    exact List.mem_cons_of_mem b (List.mem_append_left _ named)
  obtain ⟨e, u, v, read, -, spelled, more, longer⟩ := h.read?_of_reclosed again
  obtain ⟨rest, -, found⟩ := scan_of_read? read
  rw [found, List.getElem?_cons_succ] at same
  have behind := le_of_mem_spans (List.mem_of_getElem? same)
  rw [firstLine_cons inside] at spelled
  cases u with
  | nil =>
    obtain rfl : b = '>' := (List.cons.inj spelled).1
    exact absurd blank (by decide)
  | cons c u =>
    obtain ⟨rfl, -⟩ := List.cons.inj spelled
    have size := congrArg Text.byteSize longer
    simp only [Text.byteSize_append, Text.byteSize_cons] at size
    have last := '>'.utf8Size_pos
    omega

/-- A directive with other text behind it is read as it stands exactly if none of its parts can be
closed again on the line. A second directive behind a blank is found exactly if the blank ends the
line and the second one is closed as well. -/
theorem scan_append_iff (proper : d.Proper) (detached : Detached t) :
    scan d.text = [(d, 0, Text.byteSize d.text)] ∧
      ((scan (d.text ++ t)).head? = (scan d.text).head? ↔ d.Closed t) ∧
      ∀ (b : Char) (d' : Directive) (t' : Text), Unicode.isBlank b = true → d'.Proper →
        Detached t' → t = b :: (d'.text ++ t') →
        let start := Text.byteSize d.text + b.utf8Size
        ((scan (d.text ++ t))[1]? = some (d', start, start + Text.byteSize d'.text) ↔
          b = '\n' ∧ d'.Closed t') := by
  refine ⟨proper.scan_text, ?_, ?_⟩
  · obtain ⟨e, read, own⟩ := proper.exists_read? detached
    rw [proper.scan_text, List.head?_cons, head?_scan_eq_iff read, own]
  · rintro b d' t' blank proper' detached' rfl start
    by_cases ends : b = '\n'
    · subst ends
      exact (scan_newLine_iff proper proper' detached').trans (and_iff_right rfl).symm
    · exact iff_of_false (scan_sameLine_ne proper proper' blank ends) fun h => ends h.1

/-- A directive with both parts, and marks behind it that close neither: a comment in front of a
line end, and another directive on the next line. -/
theorem scan_append_iff_lines :
    let d : Directive :=
      ⟨"#include<lights>(x,y)[0..n]".toList, "lights".toList, some "x,y".toList,
        some "0..n".toList⟩
    let d' : Directive := ⟨"#include <fog>".toList, "fog".toList, none, none⟩
    let text := "#include<lights>(x,y)[0..n]\n#include <fog> // f(x)[i]".toList
    (scan text).head? = some (d, 0, 27) ∧ (scan text)[1]? = some (d', 28, 42) := by
  intro d d' text
  have proper : d.Proper := by decide
  have proper' : d'.Proper := by decide
  obtain ⟨alone, first, second⟩ := scan_append_iff
    (t := "\n#include <fog> // f(x)[i]".toList) proper (by decide)
  have closed := first.mpr (by decide)
  rw [alone] at closed
  exact ⟨closed, (second '\n' d' " // f(x)[i]".toList (by decide) proper' (by decide)
    (by decide)).mpr ⟨rfl, by decide⟩⟩

/-- A comment with a mark in it goes into the name or into the replacements of the directive in
front, and so does a second directive on the line, so that only one is found. -/
theorem scan_append_ne :
    let named : Directive := ⟨"#include<a>".toList, ['a'], none, none⟩
    let called : Directive := ⟨"#include<a>(x,y)".toList, ['a'], some "x,y".toList, none⟩
    let comment := " // b > c".toList
    let call := " // f(z)".toList
    (named.Proper ∧ Detached comment ∧
      (scan (named.text ++ comment)).head? ≠ (scan named.text).head?) ∧
    (called.Proper ∧ Detached call ∧
      (scan (called.text ++ call)).head? ≠ (scan called.text).head?) ∧
    (scan (named.text ++ ' ' :: named.text)).map (·.1.name) = ["a> #include<a".toList] := by
  intro named called comment call
  have proper : named.Proper := by decide
  have proper' : called.Proper := by decide
  exact ⟨⟨proper, by decide, by decide +kernel⟩, ⟨proper', by decide, by decide +kernel⟩,
    by decide +kernel⟩

end Scan
end ShaderPrep.Include
