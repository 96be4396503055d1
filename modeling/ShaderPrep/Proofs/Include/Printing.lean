import ShaderPrep.Proofs.Include.Locality

/-! Scanning takes back what was printed. In a file whose lines are texts without the keyword or
directives written out from their parts, exactly the directives are found, in their order. The bytes
that a directive takes can be cut out of any source, and no two directives share any. -/
namespace ShaderPrep

namespace Text

/-- The bytes from `start` to `stop`; none if one of them is inside a character, behind the end or
in front of the other. -/
def slice? (start stop : Nat) (s : Text) : Option Text :=
  if start ≤ stop then do
    let (_, rest) ← splitAtByte? start s
    let (inner, _) ← splitAtByte? (stop - start) rest
    return inner
  else none

theorem slice?_append (u v w : Text) :
    slice? (byteSize u) (byteSize u + byteSize v) (u ++ (v ++ w)) = some v := by
  have inner := splitAtByte?_append v w
  rw [slice?, if_pos (Nat.le_add_right ..), splitAtByte?_append, Nat.add_sub_cancel_left]
  simp only [Option.bind_eq_bind, Option.bind_some, inner, Option.pure_def]

theorem byteSize_pos {s : Text} (filled : s ≠ []) : 0 < byteSize s := by
  obtain ⟨c, s, rfl⟩ := List.exists_cons_of_ne_nil filled
  rw [byteSize_cons]
  exact Nat.add_pos_left c.utf8Size_pos _

end Text

namespace Include

section Spans
variable {d : Directive} {start stop : Nat}

/-- The directives of a source, without the bytes they take. -/
def directives (s : Text) : List Directive := (split s).1.map Piece.directive

theorem directives_cons {c : Char} {s : Text} (h : Directive.read? (c :: s) = none) :
    directives (c :: s) = directives s := by
  rw [directives, split_cons h, directives]
  cases split s with
  | mk pieces tail =>
    cases pieces with
    | nil => rfl
    | cons piece pieces => rfl

theorem map_fst_spans (offset : Nat) (pieces : List Piece) :
    (spans offset pieces).map Prod.fst = pieces.map Piece.directive := by
  induction pieces generalizing offset with
  | nil => rfl
  | cons piece pieces ih => simp only [spans, List.map_cons, ih]

/-- Directives take bytes one behind the other. -/
theorem pairwise_spans (offset : Nat) (pieces : List Piece) :
    (spans offset pieces).Pairwise fun first second => first.2.2 ≤ second.2.1 := by
  induction pieces generalizing offset with
  | nil => exact .nil
  | cons piece pieces ih =>
    rw [spans, List.pairwise_cons]
    refine ⟨?_, ih _⟩
    rintro ⟨d, start, stop⟩ behind
    exact le_of_mem_spans behind

theorem size_of_mem_spans {offset : Nat} {pieces : List Piece}
    (h : (d, start, stop) ∈ spans offset pieces) : stop = start + Text.byteSize d.text := by
  induction pieces generalizing offset with
  | nil => contradiction
  | cons piece pieces ih =>
    rcases List.mem_cons.mp h with here | behind
    · obtain ⟨rfl, place⟩ := Prod.mk.inj here
      obtain ⟨rfl, rfl⟩ := Prod.mk.inj place
      rfl
    · exact ih behind

/-- What is in front of the pieces has the size that they are counted from. -/
theorem slice?_of_mem_spans {pieces : List Piece} (front tail : Text)
    (h : (d, start, stop) ∈ spans (Text.byteSize front) pieces) :
    Text.slice? start stop (front ++ unsplit pieces tail) = some d.text := by
  induction pieces generalizing front with
  | nil => contradiction
  | cons piece pieces ih =>
    have whole : front ++ unsplit (piece :: pieces) tail =
        (front ++ piece.before) ++ (piece.directive.text ++ unsplit pieces tail) := by
      simp [unsplit]
    rw [spans, ← Text.byteSize_append, ← Text.byteSize_append] at h
    rw [whole]
    rcases List.mem_cons.mp h with here | behind
    · obtain ⟨rfl, place⟩ := Prod.mk.inj here
      obtain ⟨rfl, rfl⟩ := Prod.mk.inj place
      rw [Text.byteSize_append (front ++ piece.before) piece.directive.text]
      exact Text.slice?_append ..
    · rw [← List.append_assoc]
      exact ih _ behind

theorem slice?_of_mem_scan {s : Text} (h : (d, start, stop) ∈ scan s) :
    Text.slice? start stop s = some d.text := by
  have cut := slice?_of_mem_spans [] (split s).2 h
  rwa [List.nil_append, unsplit_split] at cut

theorem mem_directives_of_mem_scan {s : Text} (h : (d, start, stop) ∈ scan s) :
    d ∈ directives s := by
  rw [directives, ← map_fst_spans 0]
  exact List.mem_map_of_mem h

theorem text_ne_nil_of_mem_directives {s : Text} (h : d ∈ directives s) : d.text ≠ [] := by
  induction s using split_induction with
  | nil => contradiction
  | char c s none ih => exact ih (directives_cons none ▸ h)
  | directive e t read ih =>
    rw [directives, split_directive read] at h
    rcases List.mem_cons.mp h with rfl | behind
    · exact Directive.text_ne_nil read
    · exact ih behind

/-- Every directive takes bytes. -/
theorem lt_of_mem_scan {s : Text} (h : (d, start, stop) ∈ scan s) : start < stop := by
  have filled := text_ne_nil_of_mem_directives (mem_directives_of_mem_scan h)
  rw [size_of_mem_spans h]
  exact Nat.lt_add_of_pos_right (Text.byteSize_pos filled)

end Spans

section Directives

theorem directives_newLine (t : Text) : directives ('\n' :: t) = directives t :=
  directives_cons (Directive.read?_eq_none_of_head (by decide) t)

/-- Text without the keyword up to the end of a line. -/
theorem directives_plain {line t : Text} (clear : Text.occurs keyword line = false)
    (new : NewLine t) : directives (line ++ t) = directives t := by
  suffices ∀ v, v <:+ line → directives (v ++ t) = directives t from
    this line List.suffix_rfl
  intro v suffix
  induction v with
  | nil => rfl
  | cons c v ih =>
    have none : Directive.read? (c :: (v ++ t)) = none :=
      Directive.read?_eq_none_of_suffix clear new suffix
    rw [List.cons_append, directives_cons none, ih ((List.suffix_cons c v).trans suffix)]

theorem Directive.Proper.directives_append {d : Directive} (h : d.Proper) {t : Text}
    (new : NewLine t) : directives (d.text ++ t) = d :: directives t := by
  have read : Directive.read? (d.text ++ t) = some d :=
    h.read?_append (show LineEnd [] by decide) new
  rw [directives, split_directive read]
  rfl

end Directives

/-- The parts of a directive that is written out, free of the marks that delimit them. -/
structure Printed where
  spaced : Bool
  name : Text
  replacements : Option Text
  range : Option Text
  named : name ≠ []
  plain : Unmarked name
  plain_replacements : ∀ s ∈ replacements, Unmarked s
  plain_range : ∀ s ∈ range, Unmarked s

def Printed.directive (p : Printed) : Directive :=
  .ofParts (if p.spaced then [' '] else []) p.name p.replacements p.range

theorem Printed.proper (p : Printed) : p.directive.Proper where
  spelled := by
    refine ⟨_, ?_, rfl⟩
    cases p.spaced with
    | false => exact .inl rfl
    | true => exact .inr rfl
  named := p.named
  name := p.plain
  replacements := p.plain_replacements
  range := p.plain_range

/-- A line of a file: text without the keyword, or a directive and nothing else. -/
inductive Row where
  | plain (text : Text) (clear : Text.occurs keyword text = false)
  | printed (directive : Printed)

namespace Row

def text : Row → Text
  | plain text _ => text
  | printed p => p.directive.text

def directive? : Row → Option Directive
  | plain .. => none
  | printed p => some p.directive

/-- The file with these lines. -/
def source (rows : List Row) : Text := Text.join ['\n'] (rows.map text)

theorem directives_append (row : Row) {t : Text} (new : NewLine t) :
    directives (row.text ++ t) = row.directive?.toList ++ directives t := by
  cases row with
  | plain text clear => exact directives_plain clear new
  | printed p => exact p.proper.directives_append new

theorem directives_source (rows : List Row) :
    directives (source rows) = rows.filterMap directive? := by
  induction rows with
  | nil => rfl
  | cons row rows ih =>
    have first : (row :: rows).filterMap directive? =
        row.directive?.toList ++ rows.filterMap directive? := by
      rw [List.filterMap_cons]
      cases row.directive? <;> rfl
    rw [first, ← ih]
    cases rows with
    | nil =>
      have only : source [row] = row.text ++ [] := by simp [source, Text.join]
      rw [only]
      exact row.directives_append newLine_nil
    | cons next rows =>
      have lines : source (row :: next :: rows) = row.text ++ '\n' :: source (next :: rows) := by
        simp [source, Text.join, List.intercalate_cons_cons]
      rw [lines, row.directives_append (newLine_cons _), directives_newLine]

end Row

/-- Scanning a file finds the directives that were printed, in their order and with their parts. The
bytes they take come one behind the other, and cutting them out gives their texts. -/
theorem scan_source (rows : List Row) :
    (scan (Row.source rows)).map Prod.fst = rows.filterMap Row.directive? ∧
      (scan (Row.source rows)).Pairwise (fun first second => first.2.2 ≤ second.2.1) ∧
      ∀ d start stop, (d, start, stop) ∈ scan (Row.source rows) →
        start < stop ∧ Text.slice? start stop (Row.source rows) = some d.text := by
  refine ⟨?_, pairwise_spans .., fun d start stop found => ⟨lt_of_mem_scan found, ?_⟩⟩
  · rw [scan, map_fst_spans]
    exact Row.directives_source rows
  · exact slice?_of_mem_scan found

/-- Characters of several bytes in front, an empty list of replacements, a blank line, and a blank
behind the keyword. -/
theorem scan_source_mixed :
    let lights : Printed := {
      spaced := false, name := "lights".toList, replacements := some [], range := some "0..n".toList
      named := by decide, plain := by decide, plain_replacements := by decide
      plain_range := by decide }
    let fog : Printed := {
      spaced := true, name := "fog".toList, replacements := none, range := none
      named := by decide, plain := by decide, plain_replacements := by decide
      plain_range := by decide }
    let rows := [.plain "é <b>".toList (by decide), .printed lights, .plain [] (by decide),
      .printed fog]
    (scan (Row.source rows)).map Prod.fst = [lights.directive, fog.directive] ∧
      (fog.directive, 33, 47) ∈ scan (Row.source rows) ∧
      Text.slice? 33 47 (Row.source rows) = some "#include <fog>".toList := by
  intro lights fog rows
  obtain ⟨found, -, cut⟩ := scan_source rows
  have mem : (fog.directive, 33, 47) ∈ scan (Row.source rows) := by decide +kernel
  exact ⟨found, mem, (cut fog.directive 33 47 mem).2⟩

end Include
end ShaderPrep
