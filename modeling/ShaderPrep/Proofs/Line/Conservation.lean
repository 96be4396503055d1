import Mathlib.Data.List.Flatten
import ShaderPrep.Proofs.Line.Stable
import ShaderPrep.Proofs.Text.Words

/-! What splitting leaves of a source, blanks apart. Nothing is added or moved, and all that can get
lost are semicolons of code: those with nothing in front of them on their line, or nothing between
them and the semicolon before. -/
namespace ShaderPrep.Line
open Text

/-- The statements of a text, cut at its semicolons. -/
def pieces (s : Text) : List Text := statements (s.splitOn ';')

section Pieces
variable {s part gap : Text}

theorem pieces_last (single : ';' ∉ s) : pieces s = if IsBlank s then [] else [s.trim] := by
  rw [pieces, List.splitOn_eq_singleton single, statements]
  simp only [trim_eq_nil_iff]

theorem pieces_cut (first : ';' ∉ part) (rest : Text) :
    pieces (part ++ ';' :: rest) =
      (if IsBlank part then [] else [part.trim ++ [';']]) ++ pieces rest := by
  obtain ⟨p, parts, more⟩ := List.exists_cons_of_ne_nil (List.splitOn_ne_nil ';' rest)
  rw [pieces, splitOn_cut first, pieces, more, statements]
  · simp only [trim_eq_nil_iff]
    split <;> rfl
  · exact List.cons_ne_nil p parts

/-- Blanks at the end of a text are no statement. -/
theorem pieces_append_blank (blank : IsBlank gap) (s : Text) : pieces (s ++ gap) = pieces s := by
  induction s using cut_induction ';' with
  | last s single =>
    have still : ';' ∉ s ++ gap :=
      fun mem => (List.mem_append.mp mem).elim single (blank.not_mem (by decide))
    have same : IsBlank (s ++ gap) ↔ IsBlank s := by
      rw [← trim_eq_nil_iff, trim_append_blank blank, trim_eq_nil_iff]
    simp only [pieces_last still, pieces_last single, same, trim_append_blank blank]
  | cons part rest first ih =>
    rw [List.append_assoc, List.cons_append, pieces_cut first, pieces_cut first, ih]

theorem pieces_blank (blank : IsBlank gap) : pieces gap = [] := by
  rw [pieces_last (blank.not_mem (by decide)), if_pos blank]

end Pieces

/-- What can be read off a line whatever blanks stand around it, and in front of a semicolon at its
end. -/
structure Loose (f : Text → Text) : Prop where
  empty : f [] = []
  text : ∀ a s b, IsBlank a → IsBlank b → f (a ++ (s ++ b)) = f s
  statement : ∀ a s b, IsBlank a → IsBlank b → f (a ++ (s ++ (b ++ [';']))) = f (s ++ [';'])

namespace Loose
variable {f : Text → Text} {s part : Text} (loose : Loose f)
include loose

theorem append_blank {gap : Text} (blank : IsBlank gap) (s : Text) : f (s ++ gap) = f s :=
  loose.text [] s gap (List.forall_mem_nil _) blank

theorem trim (s : Text) : f s.trim = f s := by
  obtain ⟨a, b, whole, before, behind⟩ := exists_eq_trim s
  have padded := loose.text a s.trim b before behind
  rwa [← whole, eq_comm] at padded

theorem trim_statement (s : Text) : f (s.trim ++ [';']) = f (s ++ [';']) := by
  obtain ⟨a, b, whole, before, behind⟩ := exists_eq_trim s
  have padded := loose.statement a s.trim b before behind
  have same : a ++ (s.trim ++ (b ++ [';'])) = s ++ [';'] := by
    conv_rhs => rw [whole]
    simp
  rwa [same, eq_comm] at padded

theorem flatMap_pieces_last (single : ';' ∉ s) : (pieces s).flatMap f = f s := by
  rw [pieces_last single]
  split
  · next blank =>
    have none := loose.append_blank blank []
    exact (none.trans loose.empty).symm
  · rw [List.flatMap_singleton, loose.trim]

theorem flatMap_pieces_cut (first : ';' ∉ part) (rest : Text) :
    (pieces (part ++ ';' :: rest)).flatMap f =
      (if IsBlank part then [] else f (part ++ [';'])) ++ (pieces rest).flatMap f := by
  rw [pieces_cut first, List.flatMap_append]
  split
  · rfl
  · rw [List.flatMap_singleton, loose.trim_statement]

end Loose

section Physical
variable {physical : Text}

theorem exists_eq_withoutReturn (physical : Text) :
    ∃ gap, physical = physical.dropLastIf '\r' ++ gap ∧ IsBlank gap ∧ gap.head? ≠ some '#' := by
  rw [dropLastIf]
  split
  · next ends =>
    obtain ⟨s, rfl⟩ := List.getLast?_eq_some_iff.mp ends
    exact ⟨['\r'], by rw [List.dropLast_concat], by decide, by decide⟩
  · exact ⟨[], (List.append_nil physical).symm, List.forall_mem_nil _, by decide⟩

/-- Directives and comments, which are kept as they stand. -/
def Verbatim (physical : Text) : Prop := physical.head? = some '#' ∨ IsComment physical

instance : DecidablePred Verbatim := fun _ => inferInstanceAs (Decidable (_ ∨ _))

theorem logical_verbatim (h : Verbatim physical) :
    logical physical = [physical.dropLastIf '\r'] := by
  obtain ⟨gap, whole, blank, other⟩ := exists_eq_withoutReturn physical
  simp only [logical]
  split
  · rfl
  next directive =>
  have comment : IsComment (physical.dropLastIf '\r') := by
    rcases h with start | comment
    · rw [whole, List.head?_append, Option.or_eq_some_iff] at start
      exact absurd (start.resolve_left directive).2 other
    · rwa [whole, IsComment, trim_append_blank blank] at comment
  have filled : (physical.dropLastIf '\r').trim ≠ [] := by
    intro empty
    rw [IsComment, empty] at comment
    contradiction
  rw [if_neg filled]
  exact if_pos comment

theorem Loose.flatMap_verbatim {f : Text → Text} (loose : Loose f) (h : Verbatim physical) :
    (logical physical).flatMap f = f physical := by
  obtain ⟨gap, whole, blank, -⟩ := exists_eq_withoutReturn physical
  have same := loose.append_blank blank (physical.dropLastIf '\r')
  rw [← whole] at same
  rw [logical_verbatim h, List.flatMap_singleton, same]

/-- The logical lines of code are its statements, but for blanks in front of a semicolon. -/
theorem Loose.flatMap_logical {f : Text → Text} (loose : Loose f) (code : ¬Verbatim physical) :
    (logical physical).flatMap f = (pieces physical).flatMap f := by
  obtain ⟨gap, whole, blank, -⟩ := exists_eq_withoutReturn physical
  simp only [logical]
  generalize physical.dropLastIf '\r' = line at whole ⊢
  rw [whole, Verbatim, IsComment, trim_append_blank blank] at code
  rw [whole, pieces_append_blank blank]
  split
  · next start =>
    rw [List.head?_append, start] at code
    exact absurd (.inl rfl) code
  obtain ⟨a, b, spelled, before, behind⟩ := exists_eq_trim line
  split
  · next empty => rw [pieces_blank (trim_eq_nil_iff.mp empty)]
  next filled =>
  split
  · next comment => exact absurd (.inr comment) code
  have around : ';' ∉ a ∧ ';' ∉ b :=
    ⟨before.not_mem (by decide), behind.not_mem (by decide)⟩
  split
  · next none =>
    have single : ';' ∉ line := by
      rw [spelled]
      simp [around, cut?_eq_none_iff.mp none]
    rw [pieces_last single, if_neg (trim_eq_nil_iff.not.mp filled)]
  · next lone =>
    rw [(cut?_eq_some.mp lone).1] at spelled
    rw [spelled, show a ++ ([] ++ [';'] ++ b) = a ++ ';' :: b by simp, pieces_cut around.1,
      if_pos before, pieces_blank behind]
    rfl
  · next statement some_ cut =>
    -- The only branch that keeps blanks in front of a semicolon, where the statements lose them.
    obtain ⟨ends, first⟩ := cut?_eq_some.mp cut
    have solid : ¬IsBlank (a ++ statement) := by
      obtain ⟨c, -, head, -, own, -⟩ := tight_trim filled
      obtain ⟨d, more, rfl⟩ := List.exists_cons_of_ne_nil some_
      rw [ends] at head
      obtain rfl := Option.some.inj head
      exact fun all => ne_true_of_eq_false own (all d (by simp))
    have read : pieces line = [statement.trim ++ [';']] := by
      rw [spelled, ends, show a ++ (statement ++ [';'] ++ b) = (a ++ statement) ++ ';' :: b by simp,
        pieces_cut (by simp [around, first]), if_neg solid, pieces_blank behind,
        List.append_nil, trim_blank_append before]
    rw [read, ends, List.flatMap_singleton, List.flatMap_singleton, loose.trim_statement]
  · rfl

end Physical

/-- Nothing but semicolons and blanks. -/
def Idle (s : Text) : Prop := ∀ c ∈ s, c = ';' ∨ Unicode.isBlank c = true

instance : DecidablePred Idle := fun _ => List.decidableBAll ..

/-- The text without the semicolons that directly follow another one, or stand first if the start is
idle. -/
def withoutIdle (idle : Bool) : Text → Text
  | [] => []
  | c :: s => if c = ';' ∧ idle = true then withoutIdle true s else c :: withoutIdle (c = ';') s

section Idle
variable {s part : Text}

theorem withoutIdle_sublist (idle : Bool) (s : Text) : (withoutIdle idle s).Sublist s := by
  induction s generalizing idle with
  | nil => exact List.Sublist.refl []
  | cons c s ih =>
    rw [withoutIdle]
    split
    · exact (ih true).cons c
    · exact (ih _).cons_cons c

theorem idle_squeeze_iff : Idle (squeeze s) ↔ Idle s := by
  refine ⟨fun h c mem => ?_, fun h c mem => h c (squeeze_subset s mem)⟩
  cases blank : Unicode.isBlank c with
  | true => exact .inr rfl
  | false => exact blank ▸ h c (List.mem_filter.mpr ⟨mem, by simp [blank]⟩)

theorem withoutIdle_of_idle (h : Idle s) : withoutIdle true (squeeze s) = [] := by
  induction s with
  | nil => rfl
  | cons c s ih =>
    obtain ⟨here, behind⟩ := List.forall_mem_cons.mp h
    cases blank : Unicode.isBlank c with
    | true =>
      rw [squeeze, List.filter_cons_of_neg (by simp [blank])]
      exact ih behind
    | false =>
      have own : c = ';' := here.resolve_right (ne_true_of_eq_false blank)
      rw [squeeze, List.filter_cons_of_pos (by simp [blank]), withoutIdle, if_pos ⟨own, rfl⟩]
      exact ih behind

theorem withoutIdle_of_notMem (single : ';' ∉ s) (idle : Bool) : withoutIdle idle s = s := by
  induction s generalizing idle with
  | nil => rfl
  | cons c s ih =>
    have other : c ≠ ';' := fun same => single (same ▸ List.mem_cons_self)
    rw [withoutIdle, if_neg fun h => other h.1, ih fun mem => single (List.mem_cons_of_mem c mem)]

theorem withoutIdle_cut (filled : part ≠ []) (first : ';' ∉ part) (idle : Bool) (rest : Text) :
    withoutIdle idle (part ++ ';' :: rest) = part ++ ';' :: withoutIdle true rest := by
  induction part generalizing idle with
  | nil => exact absurd rfl filled
  | cons c part ih =>
    have other : c ≠ ';' := fun same => first (same ▸ List.mem_cons_self)
    have next : ';' ∉ part := fun mem => first (List.mem_cons_of_mem c mem)
    rw [List.cons_append, withoutIdle, if_neg fun h => other h.1]
    cases part with
    | nil => simp [withoutIdle, other]
    | cons d part =>
      rw [ih (List.cons_ne_nil d part) next]
      rfl

theorem withoutIdle_squeeze_cut (first : ';' ∉ part) (rest : Text) :
    withoutIdle true (squeeze part ++ ';' :: rest) =
      (if IsBlank part then [] else squeeze part ++ [';']) ++ withoutIdle true rest := by
  split
  · next blank =>
    rw [squeeze_eq_nil_iff.mpr blank]
    rfl
  · next filled =>
    rw [withoutIdle_cut (squeeze_eq_nil_iff.not.mpr filled) (not_mem_squeeze first),
      List.append_assoc]
    rfl

theorem withoutIdle_eq_self_iff (idle : Bool) : withoutIdle idle s = s ↔
    (idle = true → s.head? ≠ some ';') ∧ occurs ";;".toList s = false := by
  induction s generalizing idle with
  | nil => exact iff_of_true rfl ⟨nofun, by decide⟩
  | cons c s ih =>
    have begins_ : begins ";;".toList (c :: s) = true ↔ c = ';' ∧ s.head? = some ';' := by
      rw [begins_iff]
      constructor
      · rintro ⟨rest, same⟩
        obtain ⟨rfl, rfl⟩ := List.cons.inj same
        exact ⟨rfl, rfl⟩
      · rintro ⟨rfl, head⟩
        obtain ⟨rest, rfl⟩ := List.head?_eq_some_iff.mp head
        exact ⟨rest, rfl⟩
    have behind : occurs ";;".toList (c :: s) = false ↔
        (c = ';' → s.head? ≠ some ';') ∧ occurs ";;".toList s = false := by
      rw [occurs_cons, Bool.or_eq_false_iff, ← Bool.not_eq_true, begins_, not_and]
    rw [behind, withoutIdle]
    split
    · next skipped =>
      refine iff_of_false (fun same => ?_) fun h => h.1 skipped.2 (congrArg some skipped.1)
      have bound := (withoutIdle_sublist true s).length_le
      rw [same, List.length_cons] at bound
      exact absurd bound (Nat.not_succ_le_self _)
    · next kept =>
      have start : idle = true → (c :: s).head? ≠ some ';' := fun idle head =>
        kept ⟨Option.some.inj head, idle⟩
      rw [List.cons_inj_right, ih, decide_eq_true_iff, and_iff_right start]

theorem withoutIdle_true_eq_self_iff :
    withoutIdle true s = s ↔ s.head? ≠ some ';' ∧ occurs ";;".toList s = false := by
  rw [withoutIdle_eq_self_iff, eq_self, true_imp_iff]

end Idle

theorem loose_squeeze : Loose squeeze where
  empty := rfl
  text a s b before behind := by
    rw [squeeze_append, squeeze_append, squeeze_eq_nil_iff.mpr before,
      squeeze_eq_nil_iff.mpr behind, List.nil_append, List.append_nil]
  statement a s b before behind := by
    simp only [squeeze_append, squeeze_eq_nil_iff.mpr before, squeeze_eq_nil_iff.mpr behind,
      List.nil_append]

/-- What the statements of a text have, blanks apart. -/
theorem squeeze_pieces (s : Text) :
    (pieces s).flatMap squeeze = withoutIdle true (squeeze s) := by
  induction s using cut_induction ';' with
  | last s single =>
    rw [loose_squeeze.flatMap_pieces_last single, withoutIdle_of_notMem (not_mem_squeeze single)]
  | cons part rest first ih =>
    rw [loose_squeeze.flatMap_pieces_cut first, ih, squeeze_cut part rest,
      withoutIdle_squeeze_cut first, squeeze_append]
    rfl

/-- What is left of a physical line, blanks apart. -/
def remains (physical : Text) : Text :=
  if Verbatim physical then squeeze physical else withoutIdle true (squeeze physical)

theorem remains_sublist (physical : Text) : (remains physical).Sublist (squeeze physical) := by
  rw [remains]
  split
  · exact List.Sublist.refl _
  · exact withoutIdle_sublist true _

theorem squeeze_logical (physical : Text) :
    (logical physical).flatMap squeeze = remains physical := by
  rw [remains]
  split
  · next verbatim => exact loose_squeeze.flatMap_verbatim verbatim
  · next code => rw [← squeeze_pieces, loose_squeeze.flatMap_logical code]

theorem squeeze_lines (source : Text) :
    squeeze source = (source.splitOn '\n').flatMap squeeze := by
  induction source using lines_induction with
  | last line single => rw [List.splitOn_eq_singleton single, List.flatMap_singleton]
  | cons line rest single ih =>
    rw [splitOn_cut single, List.flatMap_cons, ← ih, squeeze_append]
    rfl

/-- Parts that can only lose something lose nothing exactly if none of them does. -/
theorem flatMap_eq_iff_of_sublist {α β : Type*} {l : List α} {f g : α → List β}
    (h : ∀ a ∈ l, (f a).Sublist (g a)) : l.flatMap f = l.flatMap g ↔ ∀ a ∈ l, f a = g a := by
  induction l with
  | nil => simp
  | cons a l ih =>
    obtain ⟨first, others⟩ := List.forall_mem_cons.mp h
    rw [List.forall_mem_cons, ← ih others, List.flatMap_cons, List.flatMap_cons]
    refine ⟨fun same => ?_, fun same => congrArg₂ _ same.1 same.2⟩
    have size := congrArg List.length same
    have later := (List.Sublist.flatMap_right l others).length_le
    rw [List.length_append, List.length_append] at size
    exact List.append_inj same (Nat.le_antisymm first.length_le (by omega))

/-- The logical lines of a source, put together, have what is left of each of its physical lines,
blanks apart, in order. This is all of the source exactly if each physical line is a directive or a
comment or else, its blanks taken out, neither starts with a semicolon nor has two in a row. -/
theorem squeeze_split (source : Text) :
    squeeze (split source).flatten = (source.splitOn '\n').flatMap remains ∧
      (squeeze (split source).flatten = squeeze source ↔
        ∀ physical ∈ source.splitOn '\n', Verbatim physical ∨
          (squeeze physical).head? ≠ some ';' ∧ occurs ";;".toList (squeeze physical) = false) := by
  have left : squeeze (split source).flatten = (source.splitOn '\n').flatMap remains := by
    rw [List.flatten_eq_flatMap, squeeze_flatMap, split, List.flatMap_assoc]
    simp only [id, squeeze_logical]
  refine ⟨left, ?_⟩
  rw [left, squeeze_lines, flatMap_eq_iff_of_sublist fun p _ => remains_sublist p]
  refine forall₂_congr fun physical _ => ?_
  rw [remains]
  split
  · next verbatim => exact iff_of_true rfl (.inl verbatim)
  · next code => rw [withoutIdle_true_eq_self_iff, or_iff_right code]

/-- Of two semicolons in a row one is lost, on a line that has more than semicolons. -/
theorem squeeze_split_ne :
    let source := "for(;;) x".toList
    (∀ physical ∈ source.splitOn '\n', ¬Idle physical) ∧
      split source = ["for(;".toList, ") x".toList] ∧
      squeeze (split source).flatten ≠ squeeze source := by
  decide

end ShaderPrep.Line
