import ShaderPrep.Line.Split
import ShaderPrep.Proofs.Text.Laws
import ShaderPrep.Tree.Render

/-! Logical lines are stable: each of them, with a line end behind it, is read back as it is. So
the logical lines of any source, put out one behind the other, are the logical lines of what was
put out. -/
namespace ShaderPrep.Line

/-- The line has no line end, and it is its own logical line once a line end is put behind it. -/
def Stable (line : Text) : Prop := '\n' ∉ line ∧ logical (line ++ ['\r']) = [line]

instance : DecidablePred Stable := fun line =>
  inferInstanceAs (Decidable ('\n' ∉ line ∧ logical (line ++ ['\r']) = [line]))

/-- The first characters that are no blanks start a comment. -/
def IsComment (line : Text) : Prop := Text.begins "//".toList line.trim = true

instance : DecidablePred IsComment := fun line =>
  inferInstanceAs (Decidable (Text.begins "//".toList line.trim = true))

/-- The shapes of logical lines. A directive or a comment stands as it was written; code has no
blanks around it, and a semicolon at its end at most. -/
inductive Shape : Text → Prop
  | directive : line.head? = some '#' → Shape line
  | comment : IsComment line → Shape line
  | code : Text.Tight line → ';' ∉ line → Shape line
  | statement : Text.Tight (code ++ [';']) → ';' ∉ code → code ≠ [] → Shape (code ++ [';'])

theorem shape_of_mem_statements {parts : List Text} {line : Text}
    (without : ∀ part ∈ parts, ';' ∉ part) (h : line ∈ statements parts) : Shape line := by
  have trimmed {part : Text} (mem : part ∈ parts) : ';' ∉ part.trim := fun inside =>
    without part mem ((Text.trim_infix part).subset inside)
  fun_induction statements parts with
  | case1 => contradiction
  | case2 last blank => contradiction
  | case3 last filled =>
    rw [List.mem_singleton.mp h]
    exact .code (Text.tight_trim filled) (trimmed List.mem_cons_self)
  | case4 part rest _ blank ih =>
    exact ih (fun p mem => without p (List.mem_cons_of_mem part mem)) h
      fun mem => trimmed (List.mem_cons_of_mem part mem)
  | case5 part rest _ filled ih =>
    rcases List.mem_cons.mp h with rfl | h
    · have semicolon : Text.Tight [';'] := ⟨';', ';', rfl, rfl, by decide, by decide⟩
      have tight : Text.Tight (part.trim ++ [';']) := (Text.tight_trim filled).append semicolon []
      exact .statement tight (trimmed List.mem_cons_self) filled
    · exact ih (fun p mem => without p (List.mem_cons_of_mem part mem)) h
        fun mem => trimmed (List.mem_cons_of_mem part mem)

theorem shape_of_mem_logical {physical line : Text} (h : line ∈ logical physical) :
    Shape line := by
  simp only [logical] at h
  split at h
  · next start =>
    rw [List.mem_singleton.mp h]
    exact .directive start
  split at h
  · contradiction
  next filled =>
  split at h
  · next comment =>
    rw [List.mem_singleton.mp h]
    exact .comment comment
  have tight := Text.tight_trim filled
  split at h
  · next whole =>
    rw [List.mem_singleton.mp h]
    exact .code tight (Text.cut?_eq_none_iff.mp whole)
  · contradiction
  · next code other cut =>
    obtain ⟨ends, first⟩ := Text.cut?_eq_some.mp cut
    rw [List.mem_singleton.mp h, ends]
    rw [ends] at tight
    exact .statement tight first other
  · exact shape_of_mem_statements (fun part mem => (Text.mem_splitOn mem).2) h

/-- A statement is a piece of one of the parts, perhaps with a semicolon. -/
theorem infix_of_mem_statements {parts : List Text} {line : Text} (h : line ∈ statements parts) :
    ∃ piece, (line = piece ∨ line = piece ++ [';']) ∧ ∃ part ∈ parts, piece <:+: part := by
  fun_induction statements parts with
  | case1 => contradiction
  | case2 last blank => contradiction
  | case3 last filled =>
    exact ⟨last.trim, .inl (List.mem_singleton.mp h), last, List.mem_cons_self,
      Text.trim_infix last⟩
  | case4 part rest _ blank ih =>
    obtain ⟨piece, whole, p, mem, inside⟩ := ih h
    exact ⟨piece, whole, p, List.mem_cons_of_mem part mem, inside⟩
  | case5 part rest _ filled ih =>
    rcases List.mem_cons.mp h with rfl | h
    · exact ⟨part.trim, .inr rfl, part, List.mem_cons_self, Text.trim_infix part⟩
    · obtain ⟨piece, whole, p, mem, inside⟩ := ih h
      exact ⟨piece, whole, p, List.mem_cons_of_mem part mem, inside⟩

theorem infix_of_mem_logical {physical line : Text} (h : line ∈ logical physical) :
    ∃ piece, (line = piece ∨ line = piece ++ [';']) ∧ piece <:+: physical := by
  have whole : physical.dropLastIf '\r' <:+: physical :=
    (Text.dropLastIf_prefix '\r' physical).isInfix
  have code : (physical.dropLastIf '\r').trim <:+: physical := (Text.trim_infix _).trans whole
  simp only [logical] at h
  split at h
  · exact ⟨_, .inl (List.mem_singleton.mp h), whole⟩
  split at h
  · contradiction
  split at h
  · exact ⟨_, .inl (List.mem_singleton.mp h), whole⟩
  split at h
  · exact ⟨_, .inl (List.mem_singleton.mp h), code⟩
  · contradiction
  · exact ⟨_, .inl (List.mem_singleton.mp h), code⟩
  · obtain ⟨piece, spelled, part, mem, inside⟩ := infix_of_mem_statements h
    exact ⟨piece, spelled, inside.trans ((Text.mem_splitOn mem).1.trans whole)⟩

theorem newLine_notMem_of_mem_split {source line : Text} (h : line ∈ split source) :
    '\n' ∉ line := by
  obtain ⟨physical, inside, h⟩ := List.mem_flatMap.mp h
  obtain ⟨piece, spelled, part⟩ := infix_of_mem_logical h
  have single : '\n' ∉ piece := fun mem => (Text.mem_splitOn inside).2 (part.subset mem)
  rcases spelled with rfl | rfl
  · exact single
  · simp [single]

theorem Shape.logical_eq {line : Text} (h : Shape line) : logical (line ++ ['\r']) = [line] := by
  have ends : (line ++ ['\r']).dropLastIf '\r' = line := by simp [Text.dropLastIf]
  simp only [logical, ends]
  split
  · rfl
  next directive =>
  by_cases comment : Text.begins "//".toList line.trim = true
  · have filled : line.trim ≠ [] := by
      intro empty
      rw [empty] at comment
      contradiction
    rw [if_neg filled, if_pos comment]
  cases h with
  | directive start => exact absurd start directive
  | comment start => exact absurd start comment
  | code tight without =>
    rw [Text.trim_eq_self tight] at comment ⊢
    rw [if_neg tight.ne_nil, if_neg comment, Text.cut?_eq_none without]
  | @statement code tight first filled =>
    have cut : Text.cut? [';'] (code ++ [';']) = some (code, []) := Text.cut?_append first [] []
    rw [Text.trim_eq_self tight] at comment ⊢
    rw [if_neg tight.ne_nil, if_neg comment, cut]
    obtain ⟨c, rest, rfl⟩ := List.exists_cons_of_ne_nil filled
    rfl

theorem stable_of_mem_split {source line : Text} (h : line ∈ split source) : Stable line := by
  refine ⟨newLine_notMem_of_mem_split h, ?_⟩
  obtain ⟨physical, -, h⟩ := List.mem_flatMap.mp h
  exact (shape_of_mem_logical h).logical_eq

theorem Stable.ne_nil {line : Text} (h : Stable line) : line ≠ [] := by
  rintro rfl
  exact absurd h.2 (by decide)

theorem ne_nil_of_mem_split {source line : Text} (h : line ∈ split source) : line ≠ [] :=
  (stable_of_mem_split h).ne_nil

theorem IsComment.stable {line : Text} (h : IsComment line) (single : '\n' ∉ line) : Stable line :=
  ⟨single, (Shape.comment h).logical_eq⟩

theorem split_cut {physical : Text} (single : '\n' ∉ physical) (rest : Text) :
    split (physical ++ '\n' :: rest) = logical physical ++ split rest := by
  rw [split, Text.splitOn_cut single, List.flatMap_cons, split]

/-- A stable line that ends in front of a source is one more logical line of it. -/
theorem split_append {line : Text} (h : Stable line) (rest : Text) :
    split (line ++ Tree.lineEnd ++ rest) = line :: split rest := by
  have ends : line ++ Tree.lineEnd ++ rest = (line ++ ['\r']) ++ '\n' :: rest := by
    simp [Tree.lineEnd]
  have single : '\n' ∉ line ++ ['\r'] := by simp [h.1]
  rw [ends, split_cut single, h.2, List.singleton_append]

theorem split_flatMap {lines : List Text} (h : ∀ line ∈ lines, Stable line) :
    split (lines.flatMap (· ++ Tree.lineEnd)) = lines := by
  induction lines with
  | nil => rfl
  | cons line rest ih =>
    rw [List.flatMap_cons, split_append (h line List.mem_cons_self),
      ih fun l mem => h l (List.mem_cons_of_mem line mem)]

/-- A directive without line ends is one logical line. -/
theorem split_directive {line : Text} (start : line.head? = some '#') (single : '\n' ∉ line)
    (ends : '\r' ∉ line) : split line = [line] := by
  have whole : line.dropLastIf '\r' = line :=
    if_neg fun last => ends (List.mem_of_getLast? last)
  rw [split, List.splitOn_eq_singleton single, List.flatMap_singleton, logical, whole,
    if_pos start]

/-- Lines that are logical lines on their own are those of their text. -/
theorem split_join {lines : List Text} (h : ∀ line ∈ lines, split line = [line]) :
    split (Text.join ['\n'] lines) = lines := by
  have single (line : Text) (mem : line ∈ lines) : '\n' ∉ line := by
    have own : line ∈ split line := h line mem ▸ List.mem_singleton_self line
    exact newLine_notMem_of_mem_split own
  cases lines with
  | nil => rfl
  | cons line rest =>
    rw [split, Text.join, List.splitOn_intercalate _ single (List.cons_ne_nil _ _)]
    have alone (part : Text) (mem : part ∈ line :: rest) : logical part = [part] := by
      have own := h part mem
      rwa [split, List.splitOn_eq_singleton (single part mem), List.flatMap_singleton] at own
    rw [List.flatMap_def, List.map_congr_left alone, ← List.flatMap_def]
    exact List.flatMap_singleton' _

end ShaderPrep.Line
