import ShaderPrep.Proofs.Conditional.Output
import ShaderPrep.Proofs.Line.Conservation

/-! Comments behind code. A semicolon cuts a line in its comment as well, and what follows it is
code unless it starts a comment of its own. Where no comment is cut like that, code and comments
stay apart. -/
namespace ShaderPrep.Line
open Text

/-- A line up to its comment, and the comment from its mark on. -/
def atComment (line : Text) : Text × Text :=
  match cut? "//".toList line with
  | none => (line, [])
  | some (code, rest) => (code, "//".toList ++ rest)

def codeOf (line : Text) : Text := (atComment line).1

def commentOf (line : Text) : Text := (atComment line).2

section Sides
variable {s part : Text} {sides : Text × Text}

theorem atComment_of_none (none : cut? "//".toList s = none) : atComment s = (s, []) := by
  rw [atComment, none]

theorem atComment_of_some (cut : cut? "//".toList s = some sides) :
    atComment s = (sides.1, "//".toList ++ sides.2) := by
  rw [atComment, cut]

theorem codeOf_of_none (none : cut? "//".toList s = none) : codeOf s = s := by
  rw [codeOf, atComment_of_none none]

theorem commentOf_of_none (none : cut? "//".toList s = none) : commentOf s = [] := by
  rw [commentOf, atComment_of_none none]

theorem codeOf_append_commentOf (s : Text) : codeOf s ++ commentOf s = s := by
  cases cut : cut? "//".toList s with
  | none => rw [codeOf_of_none cut, commentOf_of_none cut, List.append_nil]
  | some sides =>
    rw [codeOf, commentOf, atComment_of_some cut, ← List.append_assoc]
    exact (eq_of_cut? cut).symm

theorem codeOf_subset (s : Text) : codeOf s ⊆ s := fun _ mem =>
  codeOf_append_commentOf s ▸ List.mem_append_left _ mem

theorem commentOf_subset (s : Text) : commentOf s ⊆ s := fun _ mem =>
  codeOf_append_commentOf s ▸ List.mem_append_right _ mem

theorem codeOf_append_of_some (cut : cut? "//".toList part = some sides) (t : Text) :
    codeOf (part ++ t) = codeOf part := by
  rw [codeOf, codeOf, atComment_of_some (cut?_append_of_some cut t), atComment_of_some cut]

/-- What follows a comment on its line belongs to it, semicolons included. -/
theorem commentOf_append_of_some (cut : cut? "//".toList part = some sides) (t : Text) :
    commentOf (part ++ t) = commentOf part ++ t := by
  rw [commentOf, commentOf, atComment_of_some (cut?_append_of_some cut t), atComment_of_some cut,
    List.append_assoc]

/-- A comment does not start at a semicolon, or across one. -/
theorem atComment_cut_of_none (none : cut? "//".toList part = none) (t : Text) :
    atComment (part ++ ';' :: t) = (part ++ ';' :: codeOf t, commentOf t) := by
  have whole := cut?_append_cons_of_none (by decide : ';' ∉ "//".toList) none t
  cases cut : cut? "//".toList t with
  | none =>
    rw [cut] at whole
    rw [atComment_of_none whole, codeOf_of_none cut, commentOf_of_none cut]
  | some sides =>
    rw [cut] at whole
    rw [atComment_of_some whole, codeOf, commentOf, atComment_of_some cut]

theorem codeOf_cut_of_none (none : cut? "//".toList part = none) (t : Text) :
    codeOf (part ++ ';' :: t) = part ++ ';' :: codeOf t := by
  rw [codeOf, atComment_cut_of_none none]

theorem commentOf_cut_of_none (none : cut? "//".toList part = none) (t : Text) :
    commentOf (part ++ ';' :: t) = commentOf t := by
  rw [commentOf, atComment_cut_of_none none]

/-- Blanks and semicolons around a line are of its code or of its comment. -/
theorem atComment_padded {a b : Text} (before : '/' ∉ a) (behind : '/' ∉ b) (s : Text) :
    atComment (a ++ (s ++ b)) =
      if (cut? "//".toList s).isSome then (a ++ codeOf s, commentOf s ++ b)
      else (a ++ (s ++ b), []) := by
  have outside : ∀ c ∈ b, c ∉ "//".toList := by
    intro c mem own
    have slash : c = '/' := by simpa using own
    exact behind (slash ▸ mem)
  have whole := cut?_padded before outside s
  cases cut : cut? "//".toList s with
  | none => exact atComment_of_none (whole.trans (congrArg (Option.map _) cut))
  | some sides =>
    rw [atComment_of_some (whole.trans (congrArg (Option.map _) cut)), codeOf, commentOf,
      atComment_of_some cut]
    simp

/-- A line is a comment if its code is blank and it has a comment. -/
theorem isComment_iff :
    IsComment s ↔ ∃ code rest, cut? "//".toList s = some (code, rest) ∧ IsBlank code := by
  constructor
  · intro comment
    obtain ⟨a, b, whole, before, -⟩ := exists_eq_trim s
    obtain ⟨rest, starts⟩ := begins_iff.mp comment
    refine ⟨a, rest ++ b, ?_, before⟩
    rw [whole, starts, List.append_assoc]
    exact cut?_append (before.not_mem (by decide)) _ _
  · rintro ⟨code, rest, cut, blank⟩
    have tight : Tight "//".toList := ⟨'/', '/', rfl, rfl, by decide, by decide⟩
    rw [IsComment, eq_of_cut? cut, List.append_assoc, trim_blank_append blank,
      trim_append_trimEnd tight]
    exact begins_iff.mpr ⟨_, rfl⟩

end Sides

section Loose
variable {a b : Text}

theorem squeeze_codeOf_padded (s : Text) (before : IsBlank a) (behind : '/' ∉ b) :
    squeeze (codeOf (a ++ (s ++ b))) =
      squeeze (codeOf s) ++ if (cut? "//".toList s).isSome then [] else squeeze b := by
  rw [codeOf, atComment_padded (before.not_mem (by decide)) behind]
  cases cut : cut? "//".toList s with
  | none => simp [codeOf, atComment_of_none cut, squeeze_append, squeeze_eq_nil_iff.mpr before]
  | some sides => simp [squeeze_append, squeeze_eq_nil_iff.mpr before]

theorem squeeze_commentOf_padded (s : Text) (before : IsBlank a) (behind : '/' ∉ b) :
    squeeze (commentOf (a ++ (s ++ b))) =
      squeeze (commentOf s) ++ if (cut? "//".toList s).isSome then squeeze b else [] := by
  rw [commentOf, atComment_padded (before.not_mem (by decide)) behind]
  cases cut : cut? "//".toList s with
  | none => simp [commentOf, atComment_of_none cut]
  | some sides => simp [squeeze_append]

theorem loose_of_padded {f : Text → Text} (more : Text → Text → Text) (empty : f [] = [])
    (padded : ∀ {a b : Text} (s : Text), IsBlank a → '/' ∉ b →
      f (a ++ (s ++ b)) = f s ++ more s (squeeze b))
    (nothing : ∀ s, more s [] = []) : Loose f where
  empty := empty
  text a s b before behind := by
    rw [padded s before (behind.not_mem (by decide)), squeeze_eq_nil_iff.mpr behind, nothing,
      List.append_nil]
  statement a s b before behind := by
    have slash : '/' ∉ b ++ [';'] := by simpa using behind.not_mem (by decide)
    have alone : f ([] ++ (s ++ [';'])) = _ := padded s (List.forall_mem_nil _) (by decide)
    rw [padded s before slash, squeeze_append, squeeze_eq_nil_iff.mpr behind]
    exact alone.symm

theorem loose_code : Loose fun s => squeeze (codeOf s) :=
  loose_of_padded (fun s behind => if (cut? "//".toList s).isSome then [] else behind) (by decide)
    squeeze_codeOf_padded fun _ => ite_self []

theorem loose_comment : Loose fun s => squeeze (commentOf s) :=
  loose_of_padded (fun s behind => if (cut? "//".toList s).isSome then behind else []) (by decide)
    squeeze_commentOf_padded fun _ => ite_self []

end Loose

/-- Behind each semicolon of the text there are only blanks, or another comment. -/
def Sealed (s : Text) : Prop :=
  ∀ before after, s = before ++ ';' :: after → IsBlank after ∨ IsComment after

section Sealed
variable {s part : Text}

theorem sealed_of_notMem (single : ';' ∉ s) : Sealed s := by
  rintro before after rfl
  exact absurd (List.mem_append_right before List.mem_cons_self) single

theorem sealed_cut (first : ';' ∉ part) (rest : Text) :
    Sealed (part ++ ';' :: rest) ↔ IsBlank rest ∨ IsComment rest ∧ Sealed rest := by
  constructor
  · intro all
    refine (all part rest rfl).imp_right fun comment => ⟨comment, fun before after whole => ?_⟩
    exact all (part ++ ';' :: before) after (by rw [whole, List.append_assoc]; rfl)
  · intro h before after whole
    by_cases mem : ';' ∈ before
    · obtain ⟨u, v, rfl, first'⟩ := List.eq_append_cons_of_mem mem
      rw [List.append_assoc, List.cons_append] at whole
      obtain ⟨-, rfl⟩ := append_cons_inj first first' whole
      rcases h with blank | ⟨-, behind⟩
      · exact .inl fun c inside => blank c (by simp [inside])
      · exact behind v after rfl
    · obtain ⟨-, rfl⟩ := append_cons_inj first mem whole
      exact h.imp_right And.left

end Sealed

/-- The code of the statements of a text, blanks apart. -/
def pieceCode (s : Text) : Text := (pieces s).flatMap fun piece => squeeze (codeOf piece)

/-- The comments of the statements of a text, blanks apart. -/
def pieceComments (s : Text) : Text := (pieces s).flatMap fun piece => squeeze (commentOf piece)

section Pieces
variable {s part : Text} {sides : Text × Text}

theorem pieceCode_last (single : ';' ∉ s) : pieceCode s = squeeze (codeOf s) :=
  loose_code.flatMap_pieces_last single

theorem pieceComments_last (single : ';' ∉ s) : pieceComments s = squeeze (commentOf s) :=
  loose_comment.flatMap_pieces_last single

theorem not_isBlank_of_some (cut : cut? "//".toList part = some sides) : ¬IsBlank part := by
  intro blank
  have slash : '/' ∈ part := by
    rw [eq_of_cut? cut]
    simp
  exact blank.not_mem (by decide) slash

theorem pieceCode_cut_of_none (first : ';' ∉ part) (none : cut? "//".toList part = none)
    (rest : Text) :
    pieceCode (part ++ ';' :: rest) =
      (if IsBlank part then [] else squeeze part ++ [';']) ++ pieceCode rest := by
  have alone : codeOf (part ++ [';']) = part ++ [';'] := codeOf_cut_of_none none []
  rw [pieceCode, loose_code.flatMap_pieces_cut first, alone, squeeze_append]
  rfl

theorem pieceComments_cut_of_none (first : ';' ∉ part) (none : cut? "//".toList part = none)
    (rest : Text) : pieceComments (part ++ ';' :: rest) = pieceComments rest := by
  have alone : commentOf (part ++ [';']) = [] := commentOf_cut_of_none none []
  rw [pieceComments, loose_comment.flatMap_pieces_cut first, alone]
  exact congrArg (· ++ pieceComments rest) (ite_self [])

theorem pieceCode_cut_of_some (first : ';' ∉ part) (cut : cut? "//".toList part = some sides)
    (rest : Text) :
    pieceCode (part ++ ';' :: rest) = squeeze (codeOf part) ++ pieceCode rest := by
  rw [pieceCode, loose_code.flatMap_pieces_cut first, if_neg (not_isBlank_of_some cut),
    codeOf_append_of_some cut]
  rfl

theorem pieceComments_cut_of_some (first : ';' ∉ part) (cut : cut? "//".toList part = some sides)
    (rest : Text) :
    pieceComments (part ++ ';' :: rest) =
      squeeze (commentOf part) ++ ';' :: pieceComments rest := by
  rw [pieceComments, loose_comment.flatMap_pieces_cut first, if_neg (not_isBlank_of_some cut),
    commentOf_append_of_some cut, squeeze_append, List.append_assoc]
  rfl

theorem squeeze_sides (s : Text) : squeeze s = squeeze (codeOf s) ++ squeeze (commentOf s) := by
  rw [← squeeze_append, codeOf_append_commentOf]

/-- Statements have no more than the text they are cut from. -/
theorem length_pieces_le (s : Text) :
    (pieceCode s).length + (pieceComments s).length ≤ (squeeze s).length := by
  induction s using cut_induction ';' with
  | last s single =>
    refine Nat.le_of_eq ?_
    rw [pieceCode_last single, pieceComments_last single, ← List.length_append, ← squeeze_sides]
  | cons part rest first ih =>
    rw [squeeze_cut, List.length_append, List.length_cons]
    cases cut : cut? "//".toList part with
    | none =>
      rw [pieceCode_cut_of_none first cut, pieceComments_cut_of_none first cut, List.length_append]
      split
      · rw [List.length_nil]
        omega
      · rw [List.length_append, List.length_singleton]
        omega
    | some sides =>
      rw [pieceCode_cut_of_some first cut, pieceComments_cut_of_some first cut, squeeze_sides part]
      simp only [List.length_append, List.length_cons]
      omega

theorem isBlank_codeOf_iff : IsBlank (codeOf s) ↔ IsBlank s ∨ IsComment s := by
  rw [isComment_iff]
  cases cut : cut? "//".toList s with
  | none => simp [codeOf_of_none cut]
  | some sides =>
    rw [codeOf, atComment_of_some cut, or_iff_right (not_isBlank_of_some cut)]
    simp [Prod.ext_iff]

/-- The statements of a text show all of it as comments exactly if it is a comment that is sealed,
or blank. -/
theorem pieceComments_eq_iff (s : Text) :
    pieceComments s = squeeze s ↔ IsBlank s ∨ IsComment s ∧ Sealed s := by
  induction s using cut_induction ';' with
  | last s single =>
    rw [and_iff_left (sealed_of_notMem single), ← isBlank_codeOf_iff, ← squeeze_eq_nil_iff,
      pieceComments_last single, squeeze_sides s]
    exact List.self_eq_append_left
  | cons part rest first ih =>
    have filled : ¬IsBlank (part ++ ';' :: rest) := fun blank =>
      blank.not_mem (by decide : Unicode.isBlank ';' = false) (by simp)
    have comment : IsComment (part ++ ';' :: rest) ↔ IsBlank (codeOf (part ++ ';' :: rest)) :=
      (isBlank_codeOf_iff.trans (or_iff_right filled)).symm
    have bound := length_pieces_le rest
    rw [or_iff_right filled, comment, sealed_cut first, squeeze_cut]
    cases cut : cut? "//".toList part with
    | none =>
      rw [pieceComments_cut_of_none first cut, codeOf_cut_of_none cut]
      -- The part and its semicolon are in no comment, and the rest cannot make up for them.
      refine iff_of_false (fun same => ?_) fun h =>
        h.1.not_mem (by decide : Unicode.isBlank ';' = false) (by simp)
      have size := congrArg List.length same
      rw [List.length_append, List.length_cons] at size
      omega
    | some sides =>
      rw [pieceComments_cut_of_some first cut, codeOf_append_of_some cut, ← ih,
        ← squeeze_eq_nil_iff, squeeze_sides part, List.append_assoc]
      constructor
      · intro same
        have size := congrArg List.length same
        simp only [List.length_append, List.length_cons] at size
        have none : squeeze (codeOf part) = [] := List.length_eq_zero_iff.mp (by omega)
        rw [none, List.nil_append] at same
        exact ⟨none, (List.cons.inj (List.append_cancel_left same)).2⟩
      · rintro ⟨none, same⟩
        rw [none, same, List.nil_append]

/-- The comment of a text stays a comment exactly if it is sealed. -/
theorem pieceComments_eq_comment_iff (s : Text) :
    pieceComments s = squeeze (commentOf s) ↔ Sealed (commentOf s) := by
  induction s using cut_induction ';' with
  | last s single =>
    have single' : ';' ∉ commentOf s := fun mem => single (commentOf_subset s mem)
    exact iff_of_true (pieceComments_last single) (sealed_of_notMem single')
  | cons part rest first ih =>
    cases cut : cut? "//".toList part with
    | none =>
      rw [pieceComments_cut_of_none first cut, commentOf_cut_of_none cut, ih]
    | some sides =>
      have first' : ';' ∉ commentOf part := fun mem => first (commentOf_subset part mem)
      rw [pieceComments_cut_of_some first cut, commentOf_append_of_some cut, squeeze_cut,
        sealed_cut first', ← pieceComments_eq_iff, List.append_cancel_left_eq, List.cons_inj_right]

/-- The statements of a text whose comment is sealed show its code, but for idle semicolons. -/
theorem pieceCode_of_sealed (s : Text) (closed : Sealed (commentOf s)) :
    pieceCode s = withoutIdle true (squeeze (codeOf s)) := by
  induction s using cut_induction ';' with
  | last s single =>
    have single' : ';' ∉ codeOf s := fun mem => single (codeOf_subset s mem)
    rw [pieceCode_last single, withoutIdle_of_notMem (not_mem_squeeze single')]
  | cons part rest first ih =>
    cases cut : cut? "//".toList part with
    | none =>
      rw [commentOf_cut_of_none cut] at closed
      rw [pieceCode_cut_of_none first cut, ih closed, codeOf_cut_of_none cut, squeeze_cut,
        withoutIdle_squeeze_cut first]
    | some sides =>
      have code : ';' ∉ codeOf part := fun mem => first (codeOf_subset part mem)
      have comment : ';' ∉ commentOf part := fun mem => first (commentOf_subset part mem)
      rw [commentOf_append_of_some cut, sealed_cut comment, ← pieceComments_eq_iff] at closed
      -- What follows the comment is comment as a whole, so none of it is code.
      have bound := length_pieces_le rest
      have nothing : pieceCode rest = [] := by
        rw [closed] at bound
        exact List.length_eq_zero_iff.mp (by omega)
      rw [pieceCode_cut_of_some first cut, nothing, List.append_nil, codeOf_append_of_some cut,
        withoutIdle_of_notMem (not_mem_squeeze code)]

end Pieces

/-- The code of a line, blanks apart; a line of nothing but semicolons has none. -/
def liveCode (line : Text) : Text :=
  if Idle (codeOf line) then [] else squeeze (codeOf line)

section Live
variable {line s physical : Text}

theorem liveCode_congr {t : Text} (h : squeeze (codeOf s) = squeeze (codeOf t)) :
    liveCode s = liveCode t := by
  have same : Idle (codeOf s) ↔ Idle (codeOf t) := by
    rw [← idle_squeeze_iff, h, idle_squeeze_iff]
  simp only [liveCode, same, h]

theorem loose_liveCode : Loose liveCode where
  empty := by decide
  text a s b before behind := liveCode_congr (loose_code.text a s b before behind)
  statement a s b before behind := liveCode_congr (loose_code.statement a s b before behind)

theorem liveCode_of_head (h : (squeeze line).head? ≠ some ';') :
    liveCode line = squeeze (codeOf line) := by
  rw [liveCode]
  split
  · next all =>
    cases code : squeeze (codeOf line) with
    | nil => rfl
    | cons c q =>
      obtain ⟨mem, solid⟩ := List.mem_filter.mp (code ▸ List.mem_cons_self : c ∈ squeeze _)
      obtain rfl : c = ';' := (all c mem).resolve_right (by simpa using solid)
      rw [squeeze_sides, code] at h
      exact absurd rfl h
  · rfl

/-- No statement starts with a semicolon. -/
theorem head_of_mem_pieces (h : line ∈ pieces s) : (squeeze line).head? ≠ some ';' := by
  induction s using cut_induction ';' with
  | last s single =>
    rw [pieces_last single] at h
    split at h
    · contradiction
    · rw [List.mem_singleton.mp h, squeeze_trim]
      exact fun head => single (squeeze_subset s (List.mem_of_head? head))
  | cons part rest first ih =>
    rw [pieces_cut first] at h
    rcases List.mem_append.mp h with h | h
    · split at h
      · contradiction
      · next filled =>
        obtain ⟨c, q, start⟩ :=
          List.exists_cons_of_ne_nil (squeeze_eq_nil_iff.not.mpr filled)
        have inside : c ∈ part := squeeze_subset part (start ▸ List.mem_cons_self)
        rw [List.mem_singleton.mp h, squeeze_append, squeeze_trim, start]
        exact fun head => first (Option.some.inj head ▸ inside)
    · exact ih h

theorem flatMap_liveCode (code : ¬Verbatim physical) (closed : Sealed (commentOf physical)) :
    (logical physical).flatMap liveCode = withoutIdle true (squeeze (codeOf physical)) := by
  have same : (pieces physical).map liveCode = (pieces physical).map fun p => squeeze (codeOf p) :=
    List.map_congr_left fun p mem => liveCode_of_head (head_of_mem_pieces mem)
  rw [loose_liveCode.flatMap_logical code, ← pieceCode_of_sealed physical closed, pieceCode,
    List.flatMap_def, List.flatMap_def, same]

/-- The line has no semicolon in front of its comment that gets lost. -/
def KeepsCode (physical : Text) : Prop :=
  Verbatim physical ∨ Idle (codeOf physical) ∨
    (squeeze (codeOf physical)).head? ≠ some ';' ∧
      occurs ";;".toList (squeeze (codeOf physical)) = false

instance : DecidablePred KeepsCode := fun _ => inferInstanceAs (Decidable (_ ∨ _ ∨ _ ∧ _))

theorem flatMap_liveCode_iff (closed : Verbatim physical ∨ Sealed (commentOf physical)) :
    ((logical physical).flatMap liveCode).Sublist (liveCode physical) ∧
      ((logical physical).flatMap liveCode = liveCode physical ↔ KeepsCode physical) := by
  by_cases verbatim : Verbatim physical
  · rw [loose_liveCode.flatMap_verbatim verbatim]
    exact ⟨List.Sublist.refl _, iff_of_true rfl (.inl verbatim)⟩
  · rw [flatMap_liveCode verbatim (closed.resolve_left verbatim), KeepsCode,
      or_iff_right verbatim, liveCode]
    split
    · next all =>
      rw [withoutIdle_of_idle all]
      exact ⟨List.Sublist.refl _, iff_of_true rfl (.inl all)⟩
    · next other =>
      refine ⟨withoutIdle_sublist _ _, ?_⟩
      rw [withoutIdle_true_eq_self_iff, or_iff_right other]

theorem flatMap_comments_iff (physical : Text) :
    (logical physical).flatMap (fun line => squeeze (commentOf line)) =
        squeeze (commentOf physical) ↔
      Verbatim physical ∨ Sealed (commentOf physical) := by
  by_cases verbatim : Verbatim physical
  · exact iff_of_true (loose_comment.flatMap_verbatim verbatim) (.inl verbatim)
  · rw [loose_comment.flatMap_logical verbatim, or_iff_right verbatim]
    exact pieceComments_eq_comment_iff physical

end Live

/-- A word without semicolons is in a logical line only if it is in the physical one. -/
theorem occurs_of_mem_split {word source line : Text} (filled : word ≠ []) (clean : ';' ∉ word)
    (h : line ∈ split source) (found : occurs word line = true) : occurs word source = true := by
  obtain ⟨physical, inside, h⟩ := List.mem_flatMap.mp h
  obtain ⟨piece, spelled, part⟩ := infix_of_mem_logical h
  have found : occurs word piece = true := by
    rcases spelled with rfl | rfl
    · exact found
    · exact occurs_of_occurs_append filled (by simpa using clean) found
  obtain ⟨u, v, whole⟩ := part.trans (mem_splitOn inside).1
  rw [← whole]
  exact occurs_append_left (occurs_append_right found u) v

end ShaderPrep.Line

namespace ShaderPrep.Options
open Line Text
variable {σ : Type} {o : Options σ}

/-- Of a source without keywords all logical lines are put out. All of the comment of a physical
line stays comment there exactly if the line is a directive or a comment as a whole, or its comment
is sealed. Where this is so for all lines, the code that is put out is that of the source exactly if
no line loses a semicolon of its code. -/
theorem evaluate_comments_iff (hookless : Target.Hookless o.target) {source : Text}
    (free : ∀ k : Tree.Keyword, occurs k.spelling source = false) (symbols : Symbols)
    (s : Session σ) :
    let physical := source.splitOn '\n'
    (o.evaluate source symbols s).value.1.1 = (split source).flatMap (· ++ Tree.lineEnd) ∧
      (∀ p ∈ physical,
        ((logical p).flatMap fun line => squeeze (commentOf line)) = squeeze (commentOf p) ↔
          Verbatim p ∨ Sealed (commentOf p)) ∧
      ((∀ p ∈ physical, Verbatim p ∨ Sealed (commentOf p)) →
        ((split source).flatMap liveCode = physical.flatMap liveCode ↔
          ∀ p ∈ physical, KeepsCode p)) := by
  intro physical
  refine ⟨?_, fun p _ => flatMap_comments_iff p, fun closed => ?_⟩
  · have kept : ∀ line ∈ split source, Tree.Keyword.first? line = none := by
      refine fun line mem => Tree.Keyword.first?_eq_none_iff.mpr fun k => ?_
      have clean : ';' ∉ k.spelling := by cases k <;> decide
      exact Bool.eq_false_iff.mpr fun found => Bool.eq_false_iff.mp (free k)
        (occurs_of_mem_split k.spelling_ne_nil clean mem found)
    have all : (o.reads (split source) symbols s).machine.edited = split source :=
      Tree.Reading.foldl_read_of_free kept rfl rfl
    rw [value_evaluate_hookless hookless, all]
  · rw [split, List.flatMap_assoc,
      flatMap_eq_iff_of_sublist fun p mem => (flatMap_liveCode_iff (closed p mem)).1]
    exact forall₂_congr fun p mem => (flatMap_liveCode_iff (closed p mem)).2

theorem evaluate_comments_iff_sealed :
    let o : Options Unit := {}
    let s : Session Unit := { lines := { target := () } }
    let source := "a; b; // c\nd // e; // f\n#define G 1 // g; h\n;; // i\n  // j; k".toList
    let out := "a;\r\nb;\r\n// c\r\nd // e;\r\n// f\r\n#define G 1 // g; h\r\n// i\r\n  // j; k\r\n"
    (o.evaluate source ∅ s).value.1.1 = out.toList ∧
      (split source).flatMap liveCode = (source.splitOn '\n').flatMap liveCode := by
  intro o s source out
  have free : ∀ k : Tree.Keyword, occurs k.spelling source = false := by
    intro k
    cases k <;> decide
  obtain ⟨written, comments, code⟩ := evaluate_comments_iff (o := o) .none free ∅ s
  have lines : (split source).flatMap (· ++ Tree.lineEnd) = out.toList := by decide
  have closed : ∀ p ∈ source.splitOn '\n', Verbatim p ∨ Sealed (commentOf p) := fun p mem =>
    (comments p mem).mp (by revert p; decide)
  exact ⟨written.trans lines, (code closed).mpr (by decide)⟩

/-- What follows a semicolon in a comment behind code becomes code. -/
theorem evaluate_comments_ne :
    let o : Options Unit := {}
    let s : Session Unit := { lines := { target := () } }
    let source := "a // x; y".toList
    Tree.Keyword.first? source = none ∧
      (o.evaluate source ∅ s).value.1.1 = "a // x;\r\ny\r\n".toList ∧
      squeeze (commentOf source) = "//x;y".toList ∧
      (split source).flatMap (fun line => squeeze (commentOf line)) = "//x;".toList ∧
      (source.splitOn '\n').flatMap liveCode = "a".toList ∧
      (split source).flatMap liveCode = "ay".toList := by
  decide +kernel

end ShaderPrep.Options
