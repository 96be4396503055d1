import ShaderPrep.Proofs.Define.Numeral
import ShaderPrep.Symbols
import ShaderPrep.Tree.Basic

/-! A define line read twice: as an entry of a list, and as a line of a source. The list is lenient
about blanks and semicolons; a line of a source is cut at every single space, and only one of three
parts has a value. -/
namespace ShaderPrep

namespace Define

/-- What can stand for a name in a define line. -/
structure IsName (name : Text) : Prop where
  filled : name ≠ []
  plain : ∀ c ∈ name, Unicode.isBlank c = false ∧ c ≠ ';'

theorem isName_iff {name : Text} : IsName name ↔
    name ≠ [] ∧ name.all (fun c => !Unicode.isBlank c && c != ';') = true := by
  have each (c : Char) : (!Unicode.isBlank c && c != ';') = true ↔
      Unicode.isBlank c = false ∧ c ≠ ';' := by simp
  simp only [List.all_eq_true, each]
  exact ⟨fun h => ⟨h.filled, h.plain⟩, fun h => ⟨h.1, h.2⟩⟩

instance (name : Text) : Decidable (IsName name) := decidable_of_iff' _ isName_iff

/-- What can stand behind the name: nothing, a space with any text behind it, or a semicolon with
spaces behind it. -/
inductive Tail : Text → Prop
  | nothing : Tail []
  | text (w : Text) : Tail (' ' :: w)
  | semicolon (n : Nat) : Tail (';' :: List.replicate n ' ')

/-- A define line with one space or more in front of the name. -/
def spelled (gap : Nat) (name tail : Text) : Text :=
  "#define".toList ++ ' ' :: (List.replicate gap ' ' ++ (name ++ tail))

/-- The number that the list reads behind a name. -/
def entryNumber : Text → Option Int
  | ' ' :: w => Numeral.read? w
  | _ => none

/-- The number that a line of a source reads there: one without spaces, from which the first
semicolon is taken out. -/
def lineNumber : Text → Option Int
  | ' ' :: w => if ' ' ∈ w then none else Numeral.read? (Text.replaceFirst [';'] [] w)
  | _ => none

section Entry
variable {name : Text}

theorem IsName.tight (h : IsName name) : Text.Tight name := by
  obtain ⟨c, s, same⟩ := List.exists_cons_of_ne_nil h.filled
  refine ⟨c, name.getLast h.filled, same ▸ rfl, List.getLast?_eq_getLast_of_ne_nil h.filled, ?_, ?_⟩
  · exact (h.plain c (same ▸ List.mem_cons_self)).1
  · exact (h.plain _ (List.getLast_mem h.filled)).1

theorem IsName.space_notMem (h : IsName name) : ' ' ∉ name := fun mem => by
  have := (h.plain ' ' mem).1
  revert this
  decide

theorem IsName.semicolon_notMem (h : IsName name) : ';' ∉ name := fun mem =>
  (h.plain ';' mem).2 rfl

theorem isBlank_of_mem_replicate (n : Nat) :
    ∀ c ∈ List.replicate n ' ', Unicode.isBlank c = true := by
  intro c mem
  rw [List.eq_of_mem_replicate mem]
  decide

/-- What is left of the tail in a list. -/
def stripped (tail : Text) : Text := (tail.trimEnd.dropLastIf ';').trimEnd

theorem core_spelled (h : IsName name) (gap : Nat) (tail : Text) :
    core (spelled gap name tail) = name ++ stripped tail := by
  have blank := isBlank_of_mem_replicate (gap + 1)
  have front : Text.Tight ("#define".toList ++ (' ' :: List.replicate gap ' ' ++ name)) :=
    .append ⟨'#', 'e', rfl, rfl, by decide, by decide⟩ h.tight _
  have again (s : Text) : s.trimEnd.trimEnd = s.trimEnd := List.rdropWhile_idempotent ..
  have trimmed : (spelled gap name tail).trim =
      "#define".toList ++ ' ' :: (List.replicate gap ' ' ++ (name ++ tail.trimEnd)) := by
    have regroup (word u : Text) : word ++ ' ' :: (List.replicate gap ' ' ++ (name ++ u)) =
        word ++ (' ' :: List.replicate gap ' ' ++ name) ++ u := by simp
    exact (congrArg Text.trim (regroup _ tail)).trans
      ((Text.trim_append_trimEnd front tail).trans (regroup _ _).symm)
  have named : Text.trim (' ' :: (List.replicate gap ' ' ++ (name ++ tail.trimEnd))) =
      name ++ tail.trimEnd := by
    have start := Text.trimStart_append blank (name ++ tail.trimEnd)
    exact (congrArg Text.trimEnd start).trans
      ((Text.trim_append_trimEnd h.tight _).trans (congrArg _ (again _)))
  rw [core, trimmed, Text.after?_append, Option.getD_some, named,
    Text.dropLastIf_append h.semicolon_notMem, Text.trim_append_trimEnd h.tight, stripped]

theorem stripped_prefix (tail : Text) : stripped tail <+: tail :=
  (Text.trimEnd_prefix _).trans ((Text.dropLastIf_prefix _ _).trans (Text.trimEnd_prefix _))

theorem read?_stripped (tail : Text) : Numeral.read? (stripped tail) = Numeral.read? tail := by
  simp [stripped]

/-- The list reads the name, however many spaces stand in front of it, and the number. -/
theorem ofEntry_spelled {tail : Text} (h : IsName name) (shape : Tail tail) (gap : Nat) :
    (ofEntry (spelled gap name tail)).name = name ∧
      Numeral.read? (ofEntry (spelled gap name tail)).value = entryNumber tail := by
  have number := read?_stripped tail
  have bare (empty : stripped tail = []) :
      ofEntry (spelled gap name tail) = ⟨name, []⟩ := by
    have uncut : Text.cut? [' '] name = none := by
      have cut := Text.cut?_append_of_notMem h.space_notMem [] []
      rwa [List.append_nil] at cut
    rw [ofEntry, core_spelled h, empty, List.append_nil, uncut]
  cases shape with
  | nothing =>
    rw [bare rfl]
    exact ⟨rfl, rfl⟩
  | semicolon n =>
    have empty : stripped (';' :: List.replicate n ' ') = [] := by
      have trimmed : Text.trimEnd ([';'] ++ List.replicate n ' ') = [';'] :=
        Text.trimEnd_append (isBlank_of_mem_replicate n) _
      rw [stripped, ← List.singleton_append, trimmed]
      rfl
    rw [bare empty]
    exact ⟨rfl, rfl⟩
  | text w =>
    rw [Numeral.read?_cons_blank] at number
    cases left : stripped (' ' :: w) with
    | nil =>
      rw [left] at number
      rw [bare left]
      exact ⟨rfl, number⟩
    | cons c v =>
      have first : c = ' ' := by
        have front := stripped_prefix (' ' :: w)
        rw [left] at front
        exact (List.cons_prefix_cons.mp front).1
      rw [left, first, Numeral.read?_cons_blank] at number
      rw [ofEntry, core_spelled h, left, first,
        show name ++ ' ' :: v = name ++ ([' '] ++ v) from rfl, Text.cut?_append h.space_notMem]
      exact ⟨rfl, (Numeral.read?_trim v).trans number⟩

end Entry

section Line
variable {name line : Text}

theorem splitOn_define (rest : Text) :
    List.splitOn ' ' ("#define".toList ++ ' ' :: rest) = "#define".toList :: rest.splitOn ' ' := by
  rw [List.splitOn_append_cons_self, List.splitOn_eq_singleton (by decide)]
  rfl

theorem ofLine?_of_bare (h : IsName name)
    (taken : Text.replaceFirst [';'] [] line = "#define".toList ++ ' ' :: name) :
    Tree.LineDefine.ofLine? line = some ⟨name, none⟩ := by
  rw [Tree.LineDefine.ofLine?, taken, splitOn_define, List.splitOn_eq_singleton h.space_notMem]
  exact if_neg h.filled

theorem ofLine?_of_text (h : IsName name) {v : Text}
    (taken : Text.replaceFirst [';'] [] line = "#define".toList ++ ' ' :: (name ++ ' ' :: v)) :
    Tree.LineDefine.ofLine? line = some ⟨name, if ' ' ∈ v then none else some v⟩ := by
  have named : List.splitOn ' ' (name ++ ' ' :: v) = name :: v.splitOn ' ' := by
    rw [List.splitOn_append_cons_self, List.splitOn_eq_singleton h.space_notMem]
    rfl
  rw [Tree.LineDefine.ofLine?, taken, splitOn_define, named]
  by_cases spaced : ' ' ∈ v
  · -- Two parts or more are left, and the first of them is no value.
    obtain ⟨u, t, rfl⟩ := List.append_of_mem spaced
    obtain ⟨a, as, first⟩ := List.exists_cons_of_ne_nil (List.splitOn_ne_nil ' ' u)
    obtain ⟨b, bs, last⟩ := List.exists_cons_of_ne_nil (List.splitOn_ne_nil ' ' t)
    rw [List.splitOn_append_cons_self, first, last, if_pos spaced]
    cases as <;> exact if_neg h.filled
  · rw [List.splitOn_eq_singleton spaced, if_neg spaced]
    exact if_neg h.filled

theorem replaceFirst_spelled (h : IsName name) (gap : Nat) (tail : Text) :
    Text.replaceFirst [';'] [] (spelled gap name tail) =
      spelled gap name (Text.replaceFirst [';'] [] tail) := by
  have spaces : ';' ∉ ' ' :: List.replicate gap ' ' := fun mem =>
    absurd (List.eq_of_mem_replicate (n := gap + 1) mem) (by decide)
  have behind : Text.replaceFirst [';'] [] (' ' :: List.replicate gap ' ' ++ (name ++ tail)) =
      ' ' :: List.replicate gap ' ' ++ (name ++ Text.replaceFirst [';'] [] tail) := by
    rw [Text.replaceFirst_append spaces, Text.replaceFirst_append h.semicolon_notMem]
  exact (Text.replaceFirst_append (by decide) [] _).trans (congrArg _ behind)

theorem mem_replaceFirst {c d : Char} (other : d ≠ c) (w : Text) :
    d ∈ Text.replaceFirst [c] [] w ↔ d ∈ w := by
  rw [Text.replaceFirst]
  split
  · next before rest cut =>
    rw [Text.eq_of_cut? cut]
    simp [other]
  · rfl

/-- More than one space in front of the name leaves a line of a source without a name. -/
theorem ofLine?_spelled_gap (h : IsName name) (gap : Nat) (tail : Text) :
    Tree.LineDefine.ofLine? (spelled (gap + 1) name tail) = none := by
  have parts (rest : Text) : List.splitOn ' ' (' ' :: rest) = [] :: rest.splitOn ' ' :=
    List.splitOn_append_cons_self [] rest
  have cut (rest : Text) : List.splitOn ' ' (spelled (gap + 1) name rest) =
      "#define".toList :: [] :: (List.replicate gap ' ' ++ (name ++ rest)).splitOn ' ' :=
    (splitOn_define _).trans (congrArg _ (parts _))
  obtain ⟨a, as, last⟩ := List.exists_cons_of_ne_nil
    (List.splitOn_ne_nil ' ' (List.replicate gap ' ' ++ (name ++ Text.replaceFirst [';'] [] tail)))
  rw [Tree.LineDefine.ofLine?, replaceFirst_spelled h, cut, last]
  cases as <;> rfl

/-- With one space, a line of a source defines the name, with a number of its own. -/
theorem ofLine?_spelled {tail : Text} (h : IsName name) (shape : Tail tail) :
    ∃ d, Tree.LineDefine.ofLine? (spelled 0 name tail) = some d ∧ d.name = name ∧
      Numeral.read? d.effective = lineNumber tail := by
  have taken := replaceFirst_spelled h 0 tail
  have bare (empty : Text.replaceFirst [';'] [] tail = []) :
      Tree.LineDefine.ofLine? (spelled 0 name tail) = some ⟨name, none⟩ := by
    refine ofLine?_of_bare h (taken.trans ?_)
    rw [empty]
    exact congrArg (fun rest => "#define".toList ++ ' ' :: rest) (List.append_nil name)
  cases shape with
  | nothing => exact ⟨_, bare rfl, rfl, rfl⟩
  | text w =>
    have behind : Text.replaceFirst [';'] [] (' ' :: w) = ' ' :: Text.replaceFirst [';'] [] w :=
      Text.replaceFirst_append (s := [' ']) (by decide) [] w
    refine ⟨_, ofLine?_of_text h (taken.trans (congrArg _ behind)), rfl, ?_⟩
    simp only [mem_replaceFirst (show ' ' ≠ ';' by decide), lineNumber]
    split
    · rfl
    · cases Text.replaceFirst [';'] [] w <;> rfl
  | semicolon n =>
    cases n with
    | zero => exact ⟨_, bare rfl, rfl, rfl⟩
    | succ n =>
      refine ⟨_, ofLine?_of_text h taken, rfl, ?_⟩
      cases n with
      | zero => rfl
      | succ n => rfl

theorem begins_spelled (gap : Nat) (name tail : Text) :
    Text.begins "#d".toList (spelled gap name tail) = true :=
  Text.begins_iff.mpr ⟨"efine".toList ++ ' ' :: (List.replicate gap ' ' ++ (name ++ tail)), rfl⟩

end Line
end Define
end ShaderPrep
