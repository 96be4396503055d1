import ShaderPrep.Text.Substitute

/-! Laws of cutting, trimming and substituting: what an operation does to a text that is put
together from parts which are known. -/
namespace ShaderPrep.Text

theorem splitAtByte?_append (u v : Text) : splitAtByte? (byteSize u) (u ++ v) = some (u, v) := by
  induction u with
  | nil => simp [splitAtByte?]
  | cons c u ih =>
    have positive := c.utf8Size_pos
    obtain ⟨n, hn⟩ : ∃ n, byteSize (c :: u) = n + 1 :=
      ⟨byteSize (c :: u) - 1, by rw [byteSize_cons]; omega⟩
    rw [hn, List.cons_append, splitAtByte?, ← hn, byteSize_cons, if_pos (Nat.le_add_right ..),
      Nat.add_sub_cancel_left, ih]
    rfl

theorem splitAtByte?_prefix (n : Nat) (s : Text) :
    ((s.splitAtByte? n).map Prod.fst).getD s <+: s := by
  cases cut : s.splitAtByte? n with
  | none => exact List.prefix_refl s
  | some sides =>
    change sides.1 <+: s
    induction s generalizing n sides with
    | nil =>
      cases n with
      | zero =>
        cases cut
        exact List.nil_prefix
      | succ n => cases cut
    | cons c s ih =>
      cases n with
      | zero =>
        cases cut
        exact List.nil_prefix
      | succ n =>
        rw [splitAtByte?] at cut
        split at cut
        · obtain ⟨⟨before, rest⟩, inner, rfl⟩ := Option.map_eq_some_iff.mp cut
          exact List.cons_prefix_cons.mpr ⟨rfl, ih _ _ inner⟩
        · cases cut

section Cut

theorem after?_eq_none_of_head {c d : Char} {word s : Text} (h : c ≠ d) :
    after? (c :: word) (d :: s) = none := by
  simp [after?, h]

/-- A word with too many of a character does not occur. -/
theorem cut?_eq_none_of_count {word s : Text} (c : Char) (h : s.count c < word.count c) :
    cut? word s = none := by
  cases found : cut? word s with
  | none => rfl
  | some sides =>
    obtain ⟨before, rest⟩ := sides
    have count := congrArg (List.count c) (eq_of_cut? found)
    simp only [List.count_append] at count
    omega

/-- The first occurrence is where the first character of the word is. -/
theorem cut?_append {c : Char} {u : Text} (h : c ∉ u) (word v : Text) :
    cut? (c :: word) (u ++ (c :: word ++ v)) = some (u, v) := by
  induction u with
  | nil =>
    have here : after? (c :: word) (c :: (word ++ v)) = some v := after?_append (c :: word) v
    simp [cut?, here]
  | cons d u ih =>
    have different : c ≠ d := fun e => h (e ▸ List.mem_cons_self)
    rw [List.cons_append, cut?, after?_eq_none_of_head different,
      ih fun mem => h (List.mem_cons_of_mem d mem)]
    rfl

theorem cut?_append_of_notMem {c : Char} {s : Text} (h : c ∉ s) (word t : Text) :
    cut? (c :: word) (s ++ t) =
      (cut? (c :: word) t).map fun (before, rest) => (s ++ before, rest) := by
  induction s with
  | nil => simp
  | cons d s ih =>
    have different : c ≠ d := fun e => h (e ▸ List.mem_cons_self)
    rw [List.cons_append, cut?, after?_eq_none_of_head different,
      ih fun mem => h (List.mem_cons_of_mem d mem)]
    cases cut? (c :: word) t <;> rfl

/-- A word does not reach into a text that has none of its characters. -/
theorem after?_append_of_notMem {word t : Text} (h : ∀ c ∈ t, c ∉ word) (s : Text) :
    after? word (s ++ t) = (after? word s).map (· ++ t) := by
  induction word generalizing s with
  | nil => rfl
  | cons c word ih =>
    cases s with
    | nil =>
      cases t with
      | nil => rfl
      | cons d t =>
        have different : c ≠ d := fun e => h d List.mem_cons_self (e ▸ List.mem_cons_self)
        exact after?_eq_none_of_head different
    | cons d s =>
      simp only [List.cons_append, after?]
      split
      · exact ih (fun e mem own => h e mem (List.mem_cons_of_mem c own)) s
      · rfl

theorem cut?_append_right {c : Char} {word t : Text} (h : ∀ d ∈ t, d ∉ c :: word) (s : Text) :
    cut? (c :: word) (s ++ t) =
      (cut? (c :: word) s).map fun (before, rest) => (before, rest ++ t) := by
  induction s with
  | nil =>
    have none : t.count c < (c :: word).count c := by
      have outside : c ∉ t := fun mem => h c mem List.mem_cons_self
      simp [List.count_eq_zero.mpr outside]
    exact cut?_eq_none_of_count c none
  | cons d s ih =>
    have here := after?_append_of_notMem h (d :: s)
    simp only [List.cons_append] at here ⊢
    rw [cut?, cut?, here, ih]
    cases after? (c :: word) (d :: s) with
    | some rest => rfl
    | none => cases cut? (c :: word) s <;> rfl

theorem cut?_append_of_some {word s u v : Text} (h : cut? word s = some (u, v)) (t : Text) :
    cut? word (s ++ t) = some (u, v ++ t) := by
  induction s generalizing u with
  | nil =>
    obtain ⟨rest, here, same⟩ := Option.map_eq_some_iff.mp h
    cases same
    obtain ⟨rfl, rfl⟩ := List.append_eq_nil_iff.mp (after?_eq_some.mp here).symm
    cases t <;> rfl
  | cons c s ih =>
    rw [cut?] at h
    split at h
    · next rest here =>
      cases h
      have longer : after? word (c :: (s ++ t)) = some (v ++ t) := by
        rw [after?_eq_some, ← List.append_assoc, ← after?_eq_some.mp here, List.cons_append]
      rw [List.cons_append, cut?, longer]
    · next other =>
      obtain ⟨⟨u, rest⟩, behind, same⟩ := Option.map_eq_some_iff.mp h
      cases same
      have still : after? word (c :: (s ++ t)) = none := by
        refine Option.eq_none_iff_forall_ne_some.mpr fun r found => ?_
        have front : word <+: c :: s ++ t := ⟨r, (after?_eq_some.mp found).symm⟩
        have size := congrArg List.length (eq_of_cut? behind)
        simp only [List.length_append] at size
        obtain ⟨r, here⟩ := List.prefix_of_prefix_length_le front (List.prefix_append _ t)
          (by rw [List.length_cons]; omega)
        rw [after?_eq_some.mpr here.symm] at other
        cases other
      rw [List.cons_append, cut?, still, ih behind]
      rfl

/-- A word that is not in front of a character it does not have is behind it, if anywhere. -/
theorem cut?_append_cons_of_none {c : Char} {word u : Text} (h : c ∉ word)
    (absent : cut? word u = none) (v : Text) :
    cut? word (u ++ c :: v) =
      (cut? word v).map fun (before, rest) => (u ++ c :: before, rest) := by
  induction u with
  | nil =>
    cases word with
    | nil => cases absent
    | cons d word =>
      have different : d ≠ c := fun same => h (same ▸ List.mem_cons_self)
      rw [List.nil_append, cut?, after?_eq_none_of_head different]
      rfl
  | cons d u ih =>
    rw [cut?] at absent
    split at absent
    · cases absent
    next other =>
    have still : after? word (d :: (u ++ c :: v)) = none := by
      refine Option.eq_none_iff_forall_ne_some.mpr fun r found => ?_
      have whole : (d :: u) ++ c :: v = word ++ r := after?_eq_some.mp found
      rcases List.append_eq_append_iff.mp whole with ⟨a, spelled, behind⟩ | ⟨a, spelled, -⟩
      · cases a with
        | nil =>
          have here : d :: u = word ++ [] := by rw [spelled, List.append_nil, List.append_nil]
          rw [after?_eq_some.mpr here] at other
          cases other
        | cons e a =>
          obtain ⟨rfl, -⟩ := List.cons.inj behind
          exact h (spelled ▸ List.mem_append_right _ List.mem_cons_self)
      · rw [spelled, after?_append] at other
        cases other
    rw [List.cons_append, cut?, still, ih (Option.map_eq_none_iff.mp absent), Option.map_map]
    rfl

/-- What stands around a text and has none of the characters of a word moves no occurrence. -/
theorem cut?_padded {c : Char} {word p q : Text} (hp : c ∉ p) (hq : ∀ d ∈ q, d ∉ c :: word)
    (s : Text) : cut? (c :: word) (p ++ (s ++ q)) =
      (cut? (c :: word) s).map fun (before, rest) => (p ++ before, rest ++ q) := by
  rw [cut?_append_of_notMem hp, cut?_append_right hq, Option.map_map]
  rfl

theorem cut?_eq_none {c : Char} {s : Text} (h : c ∉ s) : cut? [c] s = none := by
  have count : s.count c < List.count c [c] := by simp [List.count_eq_zero.mpr h]
  exact cut?_eq_none_of_count c count

/-- A character cuts a text where it occurs first. -/
theorem cut?_eq_some {c : Char} {s u v : Text} :
    cut? [c] s = some (u, v) ↔ s = u ++ c :: v ∧ c ∉ u := by
  constructor
  · intro h
    by_cases mem : c ∈ s
    · obtain ⟨before, rest, rfl, first⟩ := List.eq_append_cons_of_mem mem
      rw [show cut? [c] (before ++ c :: rest) = some (before, rest) from
        cut?_append first [] rest] at h
      cases h
      exact ⟨rfl, first⟩
    · rw [cut?_eq_none mem] at h
      cases h
  · rintro ⟨rfl, first⟩
    exact cut?_append first [] v

theorem cut?_eq_none_iff {c : Char} {s : Text} : cut? [c] s = none ↔ c ∉ s := by
  refine ⟨fun none mem => ?_, cut?_eq_none⟩
  obtain ⟨u, v, whole, first⟩ := List.eq_append_cons_of_mem mem
  rw [cut?_eq_some.mpr ⟨whole, first⟩] at none
  cases none

theorem replaceFirst_append {c : Char} {s : Text} (h : c ∉ s) (new t : Text) :
    replaceFirst [c] new (s ++ t) = s ++ replaceFirst [c] new t := by
  rw [replaceFirst, replaceFirst, cut?_append_of_notMem h]
  cases cut? [c] t with
  | none => rfl
  | some sides => simp

/-- The first occurrence of a character cuts a text in one way only. -/
theorem append_cons_inj {c : Char} {u u' v v' : Text} (hu : c ∉ u) (hu' : c ∉ u')
    (h : u ++ c :: v = u' ++ c :: v') : u = u' ∧ v = v' := by
  have cut : cut? [c] (u ++ c :: v) = some (u, v) := cut?_append hu [] v
  have cut' : cut? [c] (u' ++ c :: v') = some (u', v') := cut?_append hu' [] v'
  rw [h, cut'] at cut
  obtain ⟨rfl, rfl⟩ := Prod.mk.inj (Option.some.inj cut)
  exact ⟨rfl, rfl⟩

theorem append_eq_append_cons {c : Char} {s t u v : Text} (h : c ∉ t)
    (same : s ++ t = u ++ c :: v) : ∃ w, s = u ++ c :: w ∧ v = w ++ t := by
  rcases List.append_eq_append_iff.mp same with ⟨a, -, behind⟩ | ⟨a, whole, behind⟩
  · exact absurd (behind ▸ List.mem_append_right a List.mem_cons_self) h
  · cases a with
    | nil =>
      have whole : c :: v = t := behind
      exact absurd (whole ▸ List.mem_cons_self) h
    | cons d a =>
      obtain ⟨rfl, rfl⟩ := List.cons.inj behind
      exact ⟨a, whole, rfl⟩

theorem cutLast?_eq_none {c : Char} {s : Text} (h : c ∉ s) : cutLast? [c] s = none := by
  induction s with
  | nil => rfl
  | cons d s ih =>
    have different : c ≠ d := fun e => h (e ▸ List.mem_cons_self)
    rw [cutLast?, ih fun mem => h (List.mem_cons_of_mem d mem), after?_eq_none_of_head different]
    rfl

/-- The last occurrence is the one behind which there is no other. -/
theorem cutLast?_append {c : Char} {v : Text} (h : c ∉ v) (u : Text) :
    cutLast? [c] (u ++ c :: v) = some (u, v) := by
  induction u with
  | nil => simp [cutLast?, cutLast?_eq_none h, after?]
  | cons d u ih => rw [List.cons_append, cutLast?, ih]

theorem cutLast?_append_right {c : Char} {t : Text} (h : c ∉ t) (s : Text) :
    cutLast? [c] (s ++ t) = (cutLast? [c] s).map fun (before, rest) => (before, rest ++ t) := by
  induction s with
  | nil => exact cutLast?_eq_none h
  | cons d s ih =>
    rw [List.cons_append, cutLast?, cutLast?, ih]
    cases cutLast? [c] s with
    | some sides => rfl
    | none =>
      simp only [Option.map_none, after?]
      split <;> rfl

theorem exists_last_of_mem {c : Char} {s : Text} (h : c ∈ s) :
    ∃ u v, s = u ++ c :: v ∧ c ∉ v := by
  obtain ⟨a, b, reversed, first⟩ := List.eq_append_cons_of_mem (List.mem_reverse.mpr h)
  refine ⟨b.reverse, a.reverse, ?_, by simpa using first⟩
  rw [← List.reverse_reverse s, reversed]
  simp

theorem cutLast?_eq_some {c : Char} {s u v : Text} :
    cutLast? [c] s = some (u, v) ↔ s = u ++ c :: v ∧ c ∉ v := by
  constructor
  · intro h
    by_cases mem : c ∈ s
    · obtain ⟨before, rest, rfl, last⟩ := exists_last_of_mem mem
      rw [cutLast?_append last] at h
      cases h
      exact ⟨rfl, last⟩
    · rw [cutLast?_eq_none mem] at h
      cases h
  · rintro ⟨rfl, last⟩
    exact cutLast?_append last u

end Cut

section Occurs

theorem occurs_nil {word : Text} (filled : word ≠ []) : occurs word [] = false := by
  cases word with
  | nil => exact absurd rfl filled
  | cons c word => rfl

/-- A word occurs where a text starts, or behind its first character. -/
theorem occurs_cons (word : Text) (c : Char) (s : Text) :
    occurs word (c :: s) = (begins word (c :: s) || occurs word s) := by
  simp only [occurs, begins, cut?]
  cases after? word (c :: s) with
  | none => simp
  | some rest => rfl

theorem occurs_append_left {word u : Text} (h : occurs word u = true) (v : Text) :
    occurs word (u ++ v) = true := by
  obtain ⟨before, rest, rfl⟩ := occurs_iff.mp h
  exact occurs_iff.mpr ⟨before, rest ++ v, by simp⟩

theorem occurs_append_right {word v : Text} (h : occurs word v = true) (u : Text) :
    occurs word (u ++ v) = true := by
  obtain ⟨before, rest, rfl⟩ := occurs_iff.mp h
  exact occurs_iff.mpr ⟨u ++ before, rest, by simp⟩

/-- A word does not reach over a character that it does not have. -/
theorem occurs_append_cons {word : Text} {c : Char} (h : c ∉ word) (u v : Text) :
    occurs word (u ++ c :: v) = true ↔ occurs word u = true ∨ occurs word v = true := by
  constructor
  · intro found
    obtain ⟨before, rest, same⟩ := occurs_iff.mp found
    rcases List.append_eq_append_iff.mp same with ⟨a, spelled, behind⟩ | ⟨a, spelled, behind⟩
    · cases a with
      | nil =>
        rw [List.append_nil] at spelled
        exact .inl (occurs_iff.mpr ⟨before, [], by rw [spelled, List.append_nil]⟩)
      | cons d a =>
        obtain ⟨rfl, rfl⟩ := List.cons.inj behind
        rcases List.append_eq_append_iff.mp spelled with ⟨b, first, last⟩ | ⟨b, first, last⟩
        · exact absurd (last ▸ List.mem_append_right b List.mem_cons_self) h
        · cases b with
          | nil =>
            have empty : word = c :: a := last.symm
            exact absurd (empty ▸ List.mem_cons_self) h
          | cons e b =>
            obtain ⟨rfl, rfl⟩ := List.cons.inj last
            exact .inr (occurs_iff.mpr ⟨b, rest, rfl⟩)
    · exact .inl (occurs_iff.mpr ⟨before, a, spelled⟩)
  · rintro (found | found)
    · exact occurs_append_left found _
    · exact occurs_append_right (occurs_append_right found [c]) u

theorem occurs_of_occurs_append {word u v : Text} (filled : word ≠ []) (h : ∀ c ∈ v, c ∉ word)
    (found : occurs word (u ++ v) = true) : occurs word u = true := by
  induction v generalizing u with
  | nil => rwa [List.append_nil] at found
  | cons c v ih =>
    have rest : ∀ d ∈ v, d ∉ word := fun d mem => h d (List.mem_cons_of_mem c mem)
    rcases (occurs_append_cons (h c List.mem_cons_self) u v).mp found with found | found
    · exact found
    · have empty : occurs word [] = true := ih rest found
      exact absurd (occurs_nil filled ▸ empty) Bool.false_ne_true

theorem occurs_of_occurs_longer {s : Text} (word more : Text)
    (found : occurs (word ++ more) s = true) : occurs word s = true := by
  obtain ⟨before, rest, rfl⟩ := occurs_iff.mp found
  exact occurs_iff.mpr ⟨before, more ++ rest, by simp⟩

end Occurs

section Lines

/-- A text is its last part, or a first part with more behind the character it is cut at. -/
theorem cut_induction (c : Char) {motive : Text → Prop} (last : ∀ part, c ∉ part → motive part)
    (cons : ∀ part rest, c ∉ part → motive rest → motive (part ++ c :: rest)) (s : Text) :
    motive s := by
  by_cases mem : c ∈ s
  · obtain ⟨part, rest, parts, first⟩ := List.eq_append_cons_of_mem mem
    rw [parts]
    exact cons part rest first (cut_induction c last cons rest)
  · exact last s mem
termination_by s.length
decreasing_by
  rw [parts, List.length_append, List.length_cons]
  omega

/-- A text is its last line, or a first line with more lines behind it. -/
theorem lines_induction {motive : Text → Prop} (last : ∀ line, '\n' ∉ line → motive line)
    (cons : ∀ line rest, '\n' ∉ line → motive rest → motive (line ++ '\n' :: rest)) (s : Text) :
    motive s :=
  cut_induction '\n' last cons s

theorem splitOn_cut {c : Char} {part : Text} (first : c ∉ part) (rest : Text) :
    (part ++ c :: rest).splitOn c = part :: rest.splitOn c := by
  rw [List.splitOn_append_cons_self, List.splitOn_eq_singleton first, List.singleton_append]

/-- What cuts at a character leave is a part of the text without the character. -/
theorem mem_splitOn {c : Char} {s part : Text} (h : part ∈ s.splitOn c) :
    part <:+: s ∧ c ∉ part := by
  induction s using cut_induction c with
  | last s single =>
    rw [List.splitOn_eq_singleton single] at h
    obtain rfl := List.mem_singleton.mp h
    exact ⟨List.infix_refl part, single⟩
  | cons first rest single ih =>
    rw [splitOn_cut single] at h
    rcases List.mem_cons.mp h with rfl | h
    · exact ⟨(List.prefix_append part (c :: rest)).isInfix, single⟩
    · obtain ⟨inside, without⟩ := ih h
      have behind : rest <:+: first ++ c :: rest := ⟨first ++ [c], [], by simp⟩
      exact ⟨inside.trans behind, without⟩

end Lines

section Trim

/-- All characters are blanks, of whatever kind. -/
def IsBlank (s : Text) : Prop := ∀ c ∈ s, Unicode.isBlank c = true

instance : DecidablePred IsBlank := fun _ => List.decidableBAll ..

theorem IsBlank.not_mem {s : Text} (h : IsBlank s) {c : Char} (other : Unicode.isBlank c = false) :
    c ∉ s :=
  fun mem => ne_true_of_eq_false other (h c mem)

/-- No character is a blank. -/
def Solid (s : Text) : Prop := ∀ c ∈ s, Unicode.isBlank c = false

instance : DecidablePred Solid := fun _ => List.decidableBAll ..

theorem IsBlank.apart {s word : Text} (h : IsBlank s) (solid : Solid word) : ∀ c ∈ s, c ∉ word :=
  fun c mem own => ne_true_of_eq_false (solid c own) (h c mem)

/-- The text has no blank at its ends, and is not empty. -/
def Tight (s : Text) : Prop :=
  ∃ c d, s.head? = some c ∧ s.getLast? = some d ∧ Unicode.isBlank c = false ∧
    Unicode.isBlank d = false

theorem Tight.ne_nil {s : Text} (h : Tight s) : s ≠ [] := by
  rintro rfl
  obtain ⟨c, d, head, -⟩ := h
  contradiction

theorem Tight.append {s t : Text} (first : Tight s) (last : Tight t) (m : Text) :
    Tight (s ++ (m ++ t)) := by
  obtain ⟨c, -, head, -, hc, -⟩ := first
  obtain ⟨-, d, -, end_, -, hd⟩ := last
  exact ⟨c, d, by simp [head], by simp [end_], hc, hd⟩

theorem Tight.dropWhile_reverse {s : Text} (h : Tight s) (t : Text) :
    (s.reverse ++ t).dropWhile Unicode.isBlank = s.reverse ++ t := by
  obtain ⟨-, d, -, last, -, hd⟩ := h
  rw [List.getLast?_eq_head?_reverse] at last
  cases reversed : s.reverse with
  | nil => simp [reversed] at last
  | cons e r =>
    obtain rfl : e = d := by simpa [reversed] using last
    exact List.dropWhile_cons_of_neg (by simp [hd])

theorem Tight.trimEnd_append {s : Text} (h : Tight s) (t : Text) : trimEnd (t ++ s) = t ++ s := by
  rw [trimEnd, List.reverse_append, h.dropWhile_reverse, List.reverse_append, List.reverse_reverse,
    List.reverse_reverse]

/-- Behind a text without blanks at its ends, only what follows is trimmed. -/
theorem trim_append_trimEnd {s : Text} (h : Tight s) (t : Text) :
    trim (s ++ t) = s ++ t.trimEnd := by
  have stop := h.dropWhile_reverse []
  rw [List.append_nil] at stop
  obtain ⟨c, -, head, -, hc, -⟩ := h
  have start : trimStart (s ++ t) = s ++ t := by
    cases s with
    | nil => cases head
    | cons e s =>
      obtain rfl : e = c := by simpa using head
      simp [trimStart, hc]
  rw [trim, start, trimEnd, List.reverse_append, List.dropWhile_append, stop]
  split
  · next blank => simp [trimEnd, List.isEmpty_iff.mp blank]
  · simp [trimEnd]

theorem trim_eq_self {s : Text} (h : Tight s) : s.trim = s := by
  have trimmed := trim_append_trimEnd h []
  rwa [List.append_nil, show trimEnd [] = [] from rfl, List.append_nil] at trimmed

theorem exists_eq_trimEnd_append (s : Text) :
    ∃ blanks, s = s.trimEnd ++ blanks ∧ ∀ c ∈ blanks, Unicode.isBlank c = true := by
  refine ⟨(s.reverse.takeWhile Unicode.isBlank).reverse, ?_, ?_⟩
  · rw [trimEnd, ← List.reverse_append, List.takeWhile_append_dropWhile, List.reverse_reverse]
  · intro c mem
    exact List.all_eq_true.mp List.all_takeWhile c (List.mem_reverse.mp mem)

theorem trimStart_append {a : Text} (blank : ∀ c ∈ a, Unicode.isBlank c = true) (s : Text) :
    trimStart (a ++ s) = trimStart s :=
  List.dropWhile_append_of_pos blank

theorem trimEnd_append {b : Text} (blank : ∀ c ∈ b, Unicode.isBlank c = true) (s : Text) :
    trimEnd (s ++ b) = trimEnd s := by
  rw [trimEnd, trimEnd, List.reverse_append,
    List.dropWhile_append_of_pos fun c mem => blank c (List.mem_reverse.mp mem)]

theorem IsBlank.trimStart_eq_nil {s : Text} (h : IsBlank s) : trimStart s = [] := by
  have all := trimStart_append h []
  rwa [List.append_nil] at all

theorem IsBlank.trim_eq_nil {s : Text} (h : IsBlank s) : trim s = [] := by
  rw [trim, h.trimStart_eq_nil]
  rfl

theorem trim_blank_append {p : Text} (blank : IsBlank p) (s : Text) : trim (p ++ s) = trim s := by
  rw [trim, trim, trimStart_append blank]

theorem trim_append_blank {q : Text} (blank : IsBlank q) (s : Text) : trim (s ++ q) = trim s := by
  rw [trim, trim, trimStart, List.dropWhile_append]
  split
  · next empty =>
    rw [trimStart, List.isEmpty_iff.mp empty]
    exact congrArg trimEnd blank.trimStart_eq_nil
  · exact trimEnd_append blank _

/-- Trimming takes off the blanks around a text without blanks at its ends. -/
theorem trim_append {a b s : Text} (ha : ∀ c ∈ a, Unicode.isBlank c = true) (hs : Tight s)
    (hb : ∀ c ∈ b, Unicode.isBlank c = true) : trim (a ++ (s ++ b)) = s := by
  obtain ⟨c, t, rfl⟩ := List.exists_cons_of_ne_nil hs.ne_nil
  have tight := trim_eq_self hs
  obtain ⟨_, _, head, -, blank, -⟩ := hs
  obtain rfl := Option.some.inj head
  have start (r : Text) : trimStart (c :: t ++ r) = c :: t ++ r :=
    List.dropWhile_cons_of_neg (by simp [blank])
  rw [trim, trimStart_append ha, start, trimEnd_append hb]
  rwa [trim, ← List.append_nil (c :: t), start, List.append_nil] at tight

theorem not_of_dropWhile_eq_cons {p : Char → Bool} {s t : Text} {c : Char}
    (h : s.dropWhile p = c :: t) : p c = false := by
  have head := List.head?_dropWhile_not p s
  rwa [h] at head

/-- Trimming leaves nothing, or a text without blanks at its ends. -/
theorem tight_trim {s : Text} (filled : s.trim ≠ []) : Tight s.trim := by
  obtain ⟨c, t, start⟩ := List.exists_cons_of_ne_nil filled
  obtain ⟨r, d, last⟩ := (List.eq_nil_or_concat s.trim).resolve_left filled
  rw [List.concat_eq_append] at last
  refine ⟨c, d, by rw [start, List.head?_cons], by rw [last, List.getLast?_concat], ?_, ?_⟩
  · obtain ⟨blanks, ends, -⟩ := exists_eq_trimEnd_append (trimStart s)
    have whole : s.dropWhile Unicode.isBlank = c :: (t ++ blanks) := by
      rw [← List.cons_append, ← start]
      exact ends
    exact not_of_dropWhile_eq_cons whole
  · have whole : (trimStart s).reverse.dropWhile Unicode.isBlank = d :: r.reverse := by
      have reversed := congrArg List.reverse last
      rw [List.reverse_append] at reversed
      exact (List.reverse_reverse _).symm.trans reversed
    exact not_of_dropWhile_eq_cons whole

theorem trimEnd_prefix (s : Text) : s.trimEnd <+: s := by
  obtain ⟨blanks, same, -⟩ := exists_eq_trimEnd_append s
  exact ⟨blanks, same.symm⟩

theorem trim_infix (s : Text) : s.trim <:+: s := by
  have front := trimEnd_prefix (trimStart s)
  exact front.isInfix.trans (List.dropWhile_suffix _).isInfix

theorem dropLastIf_prefix (c : Char) (s : Text) : s.dropLastIf c <+: s := by
  unfold dropLastIf
  split
  · exact List.dropLast_prefix s
  · exact List.prefix_refl s

theorem dropLastIf_append {c : Char} {s : Text} (h : c ∉ s) (t : Text) :
    dropLastIf c (s ++ t) = s ++ dropLastIf c t := by
  rcases List.eq_nil_or_concat t with rfl | ⟨t, d, rfl⟩
  · have other : s.getLast? ≠ some c := fun last => h (List.mem_of_getLast? last)
    simp [dropLastIf, other]
  · simp only [dropLastIf, List.concat_eq_append, ← List.append_assoc, List.getLast?_concat,
      List.dropLast_concat]
    split <;> simp

end Trim

section Substitute
variable {rule : Rule}

/-- What the rule never looks up goes through unchanged. -/
theorem substitute_append_of_none {u t : Text} (h : ∀ v, v ≠ [] → v <:+ u → rule (v ++ t) = none) :
    substitute rule (u ++ t) = u ++ substitute rule t := by
  induction u with
  | nil => rfl
  | cons c u ih =>
    have here : rule (c :: (u ++ t)) = none := h (c :: u) (by simp) (List.suffix_refl _)
    rw [List.cons_append, substitute_cons_of_none here,
      ih fun v filled suffix => h v filled (suffix.trans (List.suffix_cons c u)), List.cons_append]

theorem substitute_append_of_some {u t new : Text} (filled : u ≠ [])
    (h : rule (u ++ t) = some (new, u.length)) :
    substitute rule (u ++ t) = new ++ substitute rule t := by
  obtain ⟨c, u, rfl⟩ := List.exists_cons_of_ne_nil filled
  have first : substitute rule (c :: (u ++ t)) = _ := substitute_cons_of_some h
  rw [List.cons_append, first]
  simp

/-- Two texts are gone through one after the other if the second changes no match in the first. -/
theorem substitute_append {u t : Text} (same : ∀ v, v <:+ u → v ≠ [] → rule (v ++ t) = rule v)
    (inside : ∀ v, v <:+ u → ∀ new width, rule v = some (new, width) → width ≤ v.length) :
    substitute rule (u ++ t) = substitute rule u ++ substitute rule t := by
  cases u with
  | nil => rfl
  | cons c u =>
    have here := same (c :: u) (List.suffix_refl _) (by simp)
    have shorter (n : Nat) : substitute rule (u.drop n ++ t) =
        substitute rule (u.drop n) ++ substitute rule t :=
      have suffix : u.drop n <:+ c :: u := (List.drop_suffix n u).trans (List.suffix_cons c u)
      substitute_append (fun v part => same v (part.trans suffix))
        fun v part => inside v (part.trans suffix)
    rw [List.cons_append] at here ⊢
    cases found : rule (c :: u) with
    | none =>
      rw [substitute_cons_of_none found, substitute_cons_of_none (here.trans found)]
      exact congrArg (c :: ·) (shorter 0)
    | some result =>
      obtain ⟨new, width⟩ := result
      have bound := inside (c :: u) (List.suffix_refl _) new width found
      rw [List.length_cons] at bound
      rw [substitute_cons_of_some found, substitute_cons_of_some (here.trans found),
        List.drop_append_of_le_length (by omega), shorter, List.append_assoc]
termination_by u.length
decreasing_by
  subst_vars
  rw [List.length_drop, List.length_cons]
  omega

end Substitute

end ShaderPrep.Text
