import ShaderPrep.Include.Light
import ShaderPrep.Proofs.Text.Laws

/-! Accesses to members of the light with the marked index. Renaming reads a text from left to right
as accesses and other characters, and takes whatever stands behind the light for the dot unless it
ends the line. So renaming changes member accesses only exactly if each of these is a dot. -/
namespace ShaderPrep.Include.Light

/-- How the light with the marked index is spelled. -/
def mark : Text := "light".toList ++ indexMark

/-- What a text is read as: accesses to members, and the characters between them. -/
inductive Part where
  | char (c : Char)
  | access (dot : Char) (member : Text)

namespace Part

/-- The part as it stands in the text. -/
def text : Part → Text
  | char c => [c]
  | access dot member => mark ++ dot :: member

/-- The part with the index behind the name of the member. -/
def renamed : Part → Text
  | char c => [c]
  | access _ member => member ++ indexMark

def dot? : Part → Option Char
  | char _ => none
  | access dot _ => some dot

end Part

variable (isDot : Char → Bool)

/-- The dot and the member of the access that a text starts with, and what is behind it. The member
is the longest run of word characters, which may be empty. -/
def access? (s : Text) : Option (Char × Text × Text) :=
  match Text.after? mark s with
  | some (dot :: rest) =>
    if isDot dot then some (dot, rest.takeWhile Unicode.isWord, rest.dropWhile Unicode.isWord)
    else none
  | _ => none

theorem access?_mark (dot : Char) (behind : Text) :
    access? isDot (mark ++ dot :: behind) =
      if isDot dot then
        some (dot, behind.takeWhile Unicode.isWord, behind.dropWhile Unicode.isWord)
      else none := by
  rw [access?, Text.after?_append]

variable {isDot}

theorem access?_eq_some {s member rest : Text} {dot : Char}
    (h : access? isDot s = some (dot, member, rest)) :
    isDot dot = true ∧ s = mark ++ dot :: (member ++ rest) := by
  simp only [access?] at h
  split at h
  · next d behind found =>
    split at h
    · next stands =>
      cases h
      rw [Text.after?_eq_some.mp found, List.takeWhile_append_dropWhile]
      exact ⟨stands, rfl⟩
    · cases h
  · cases h

theorem access?_eq_none_iff {s : Text} :
    access? isDot s = none ↔ ∀ c rest, s = mark ++ c :: rest → isDot c = false := by
  constructor
  · rintro h c rest rfl
    rw [access?_mark] at h
    split at h
    · cases h
    · next other => exact Bool.eq_false_iff.mpr other
  · intro h
    refine Option.eq_none_iff_forall_ne_some.mpr fun ⟨dot, member, rest⟩ found => ?_
    obtain ⟨stands, whole⟩ := access?_eq_some found
    exact ne_true_of_eq_false (h dot _ whole) stands

variable (isDot)

/-- The parts of a text, from left to right. -/
def parts : Text → List Part
  | [] => []
  | c :: s =>
    match _h : access? isDot (c :: s) with
    | some (dot, member, rest) => .access dot member :: parts rest
    | none => .char c :: parts s
termination_by s => s.length
decreasing_by
  · have whole := congrArg List.length (access?_eq_some _h).2
    simp only [List.length_append, List.length_cons] at whole ⊢
    omega
  · exact Nat.lt_succ_self s.length

/-- The text with its member accesses renamed, and all else as it is. -/
def rename (s : Text) : Text := (parts isDot s).flatMap Part.renamed

/-- What stands for the dot in the accesses of a text. -/
def dots (s : Text) : List Char := (parts isDot s).filterMap Part.dot?

section Parts
variable {isDot}

theorem parts_of_some {s member rest : Text} {dot : Char}
    (h : access? isDot s = some (dot, member, rest)) :
    parts isDot s = .access dot member :: parts isDot rest := by
  cases s with
  | nil => cases h
  | cons c s =>
    rw [parts]
    split
    · next found =>
      cases h.symm.trans found
      rfl
    · next none => cases h.symm.trans none

theorem parts_of_none {c : Char} {s : Text} (h : access? isDot (c :: s) = none) :
    parts isDot (c :: s) = .char c :: parts isDot s := by
  rw [parts]
  split
  · next found => cases h.symm.trans found
  · rfl

/-- A text is empty, or starts with an access or with another character. -/
theorem parts_induction (isDot : Char → Bool) {motive : Text → Prop} (nil : motive [])
    (access : ∀ s dot member rest, access? isDot s = some (dot, member, rest) → motive rest →
      motive s)
    (char : ∀ c s, access? isDot (c :: s) = none → motive s → motive (c :: s)) (s : Text) :
    motive s := by
  fun_induction parts isDot s with
  | case1 => exact nil
  | case2 c s dot member rest found ih => exact access _ dot member rest found ih
  | case3 c s none ih => exact char c s none ih

end Parts

/-- The parts make up the text. -/
theorem flatMap_parts (s : Text) : (parts isDot s).flatMap Part.text = s := by
  induction s using parts_induction isDot with
  | nil => rw [parts, List.flatMap_nil]
  | access s dot member rest found ih =>
    rw [parts_of_some found, List.flatMap_cons, ih, (access?_eq_some found).2]
    simp [Part.text]
  | char c s none ih =>
    rw [parts_of_none none, List.flatMap_cons, ih]
    rfl

/-- What renaming takes away for these dots. -/
def taken (dots : List Char) : Text := dots.flatMap fun dot => "light".toList ++ [dot]

theorem taken_cons (dot : Char) (dots : List Char) :
    taken (dot :: dots) = "light".toList ++ ([dot] ++ taken dots) := by simp [taken]

theorem length_taken (dots : List Char) : (taken dots).length = 6 * dots.length := by
  induction dots with
  | nil => rfl
  | cons dot dots ih =>
    have light : "light".toList.length = 5 := rfl
    rw [taken_cons, List.length_append, List.length_append, ih, light, List.length_singleton,
      List.length_cons]
    omega

theorem count_point_taken (dots : List Char) : (taken dots).count '.' = dots.count '.' := by
  induction dots with
  | nil => rfl
  | cons dot dots ih =>
    have light : "light".toList.count '.' = 0 := by decide
    rw [taken_cons, List.count_append, List.count_append, ih, light, Nat.zero_add,
      ← List.count_append, List.singleton_append]

/-- Renaming moves characters, and takes nothing away but the dots with the lights in front. -/
theorem perm_rename (s : Text) : s.Perm (rename isDot s ++ taken (dots isDot s)) := by
  have moved (ps : List Part) :
      (ps.flatMap Part.text).Perm (ps.flatMap Part.renamed ++ taken (ps.filterMap Part.dot?)) := by
    refine List.perm_iff_count.mpr fun a => ?_
    induction ps with
    | nil => rfl
    | cons p ps ih =>
      rw [List.count_append] at ih
      cases p with
      | char c =>
        have others : (Part.char c :: ps).filterMap Part.dot? = ps.filterMap Part.dot? := rfl
        rw [others]
        simp only [List.flatMap_cons, Part.text, Part.renamed, List.count_append]
        omega
      | access dot member =>
        have first : (Part.access dot member :: ps).filterMap Part.dot? =
            dot :: ps.filterMap Part.dot? := rfl
        have cons : dot :: member = [dot] ++ member := rfl
        rw [first, taken_cons]
        simp only [List.flatMap_cons, Part.text, Part.renamed, mark, cons, List.count_append]
        omega
  have whole := moved (parts isDot s)
  rwa [flatMap_parts] at whole

theorem length_rename (s : Text) :
    s.length = (rename isDot s).length + 6 * (dots isDot s).length := by
  rw [(perm_rename isDot s).length_eq, List.length_append, length_taken]

theorem count_point_rename (s : Text) :
    s.count '.' = (rename isDot s).count '.' + (dots isDot s).count '.' := by
  rw [(perm_rename isDot s).count_eq, List.count_append, count_point_taken]

theorem dots_of_some {s member rest : Text} {dot : Char}
    (h : access? isDot s = some (dot, member, rest)) :
    dots isDot s = dot :: dots isDot rest := by
  rw [dots, parts_of_some h]
  rfl

theorem dots_of_none {c : Char} {s : Text} (h : access? isDot (c :: s) = none) :
    dots isDot (c :: s) = dots isDot s := by
  rw [dots, parts_of_none h]
  rfl

theorem mem_dots {s : Text} {c : Char} (h : c ∈ dots isDot s) :
    isDot c = true ∧ ∃ before rest, s = before ++ mark ++ c :: rest := by
  induction s using parts_induction isDot with
  | nil =>
    rw [dots, parts] at h
    contradiction
  | access s dot member rest found ih =>
    obtain ⟨stands, whole⟩ := access?_eq_some found
    rw [dots_of_some isDot found] at h
    rcases List.mem_cons.mp h with rfl | h
    · exact ⟨stands, [], member ++ rest, whole⟩
    · obtain ⟨stands', before, behind, rfl⟩ := ih h
      exact ⟨stands', mark ++ dot :: member ++ before, behind, by rw [whole]; simp⟩
  | char d s none ih =>
    rw [dots_of_none isDot none] at h
    obtain ⟨stands, before, behind, rfl⟩ := ih h
    exact ⟨stands, d :: before, behind, rfl⟩

/-- No access is found exactly if no dot stands behind a light. -/
theorem dots_eq_nil_iff {s : Text} :
    dots isDot s = [] ↔ ∀ before c rest, s = before ++ mark ++ c :: rest → isDot c = false := by
  constructor
  · intro empty before c rest whole
    induction s using parts_induction isDot generalizing before with
    | nil => simp [mark] at whole
    | access s dot member behind found ih =>
      rw [dots_of_some isDot found] at empty
      contradiction
    | char d s none ih =>
      cases before with
      | nil => exact access?_eq_none_iff.mp none c rest whole
      | cons e before =>
        rw [dots_of_none isDot none] at empty
        exact ih empty before (List.cons.inj whole).2
  · intro absent
    refine List.eq_nil_iff_forall_not_mem.mpr fun c mem => ?_
    obtain ⟨stands, before, rest, whole⟩ := mem_dots isDot mem
    exact ne_true_of_eq_false (absent before c rest whole) stands

/-- Nothing is changed exactly if no access is found. -/
theorem rename_eq_self_iff {s : Text} : rename isDot s = s ↔ dots isDot s = [] := by
  constructor
  · intro same
    have size := length_rename isDot s
    rw [same] at size
    exact List.eq_nil_of_length_eq_zero (by omega)
  · intro empty
    have still : ∀ p ∈ parts isDot s, p.renamed = p.text := by
      intro p mem
      have undotted := List.filterMap_eq_nil_iff.mp empty p mem
      cases p with
      | char c => rfl
      | access dot member => cases undotted
    conv => rhs; rw [← flatMap_parts isDot s]
    rw [rename, List.flatMap_def, List.map_congr_left still, ← List.flatMap_def]

/-- Where all the dots of one reading are dots of a narrower one, the readings are the same. -/
theorem parts_congr {p q : Char → Bool} {s : Text} (narrower : ∀ c, q c = true → p c = true)
    (all : ∀ c ∈ dots p s, q c = true) : parts q s = parts p s := by
  induction s using parts_induction p with
  | nil => rw [parts, parts]
  | access s dot member rest found ih =>
    rw [dots_of_some p found, List.forall_mem_cons] at all
    have still : access? q s = some (dot, member, rest) := by
      obtain ⟨stands, whole⟩ := access?_eq_some found
      rw [whole, access?_mark, if_pos stands] at found
      rw [whole, access?_mark, if_pos all.1, found]
    rw [parts_of_some found, parts_of_some still, ih all.2]
  | char c s none ih =>
    rw [dots_of_none p none] at all
    have still : access? q (c :: s) = Option.none := by
      rw [access?_eq_none_iff] at none ⊢
      intro d rest whole
      exact Bool.eq_false_iff.mpr fun own =>
        ne_true_of_eq_false (none d rest whole) (narrower d own)
    rw [parts_of_none none, parts_of_none still, ih all]

/-- A reading renames like the one that takes nothing but points for dots exactly if all its dots
are points. -/
theorem rename_eq_iff {p : Char → Bool} {s : Text} (point : p '.' = true) :
    rename p s = rename (· = '.') s ↔ ∀ c ∈ dots p s, c = '.' := by
  constructor
  · intro same c mem
    have size := length_rename p s
    have size' := length_rename (· = '.') s
    have points := count_point_rename p s
    have points' := count_point_rename (· = '.') s
    have all : ∀ c ∈ dots (· = '.') s, '.' = c := fun c mem =>
      (of_decide_eq_true (mem_dots (· = '.') mem).1).symm
    rw [List.count_eq_length.mpr all] at points'
    rw [same] at size points
    have full : (dots p s).count '.' = (dots p s).length := by omega
    exact (List.count_eq_length.mp full c mem).symm
  · intro all
    have narrower : ∀ c, decide (c = '.') = true → p c = true := by
      intro c own
      rw [of_decide_eq_true own, point]
    rw [rename, rename, parts_congr narrower fun c mem => decide_eq_true (all c mem)]

theorem lightRule_eq (s : Text) :
    lightRule s = (access? (· ≠ '\n') s).map fun (_, member, _) =>
      (member ++ indexMark, mark.length + 1 + member.length) := by
  rw [lightRule, access?, mark]
  cases Text.after? ("light".toList ++ indexMark) s with
  | none => rfl
  | some behind =>
    cases behind with
    | nil => rfl
    | cons dot rest =>
      by_cases ends : dot = '\n'
      · rw [ends]
        rfl
      · have inside : decide (dot ≠ '\n') = true := decide_eq_true ends
        dsimp only
        rw [if_neg ends, if_pos inside]
        rfl

/-- Anything that does not end the line is taken for the dot. -/
theorem renameLights_eq (s : Text) : renameLights s = rename (· ≠ '\n') s := by
  induction s using parts_induction (· ≠ '\n') with
  | nil => rw [rename, parts]; rfl
  | access s dot member rest found ih =>
    obtain ⟨-, whole⟩ := access?_eq_some found
    have spelled : s = mark ++ dot :: member ++ rest := by rw [whole]; simp
    have rule : lightRule (mark ++ dot :: member ++ rest) =
        some (member ++ indexMark, (mark ++ dot :: member).length) := by
      rw [← spelled, lightRule_eq, found, List.length_append, List.length_cons]
      simp only [Option.map_some, Nat.add_assoc, Nat.add_comm 1]
    rw [rename, parts_of_some found, spelled]
    exact (Text.substitute_append_of_some (by simp) rule).trans (congrArg _ ih)
  | char c s none ih =>
    have rule : lightRule (c :: s) = Option.none := by rw [lightRule_eq, none]; rfl
    rw [rename, parts_of_none none]
    exact (Text.substitute_cons_of_none rule).trans (congrArg (c :: ·) ih)

/-- Renaming does what it does to member accesses alone exactly if every access that is found has a
point for its dot; and a text is returned as it is exactly if each light with the marked index ends
its line or the text. -/
theorem renameLights_eq_iff (s : Text) :
    (renameLights s = rename (· = '.') s ↔ ∀ c ∈ dots (· ≠ '\n') s, c = '.') ∧
      ((∀ before c rest, s = before ++ mark ++ c :: rest → c = '.' ∨ c = '\n') →
        renameLights s = rename (· = '.') s) ∧
      (renameLights s = s ↔ ∀ before c rest, s = before ++ mark ++ c :: rest → c = '\n') := by
  rw [renameLights_eq]
  have members := rename_eq_iff (p := (· ≠ '\n')) (s := s) (by decide)
  refine ⟨members, fun followed => members.mpr fun c mem => ?_, ?_⟩
  · obtain ⟨inside, before, rest, whole⟩ := mem_dots _ mem
    exact (followed before c rest whole).resolve_right (of_decide_eq_true inside)
  · rw [rename_eq_self_iff, dots_eq_nil_iff]
    simp only [decide_eq_false_iff_not, Decidable.not_not]

/-- A semicolon behind the light is taken for a dot, and so is the comma in front of a name. -/
theorem renameLights_ne :
    let ended := "light\x7bX\x7d;".toList
    let listed := "light\x7bX\x7d, n".toList
    (renameLights ended = "\x7bX\x7d".toList ∧ rename (· = '.') ended = ended) ∧
      renameLights listed = "\x7bX\x7d n".toList ∧ rename (· = '.') listed = listed := by
  decide +kernel

end ShaderPrep.Include.Light
