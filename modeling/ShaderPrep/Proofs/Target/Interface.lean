import ShaderPrep.Proofs.Target.Hookless
import ShaderPrep.Proofs.Text.Laws
import ShaderPrep.Target.WebGl2
import ShaderPrep.Unicode.Classes

/-! The interface of a stage under the second WebGL version. A line is taken for the declaration of
a varying wherever the keyword stands in it, inside of a name as well, and a vertex line that starts
with the keyword of attributes for the declaration of one; the first occurrence is what is replaced.
So a line stays as it is exactly if none of its names has the keyword in it. -/
namespace ShaderPrep

namespace Text

/-- The names in a text: the runs of its word characters, in order. -/
def names (s : Text) : List Text := (s.splitOnP fun c => !Unicode.isWord c).filter (· ≠ [])

/-- A word occurs in a text exactly if it occurs in one of its names. -/
theorem occurs_iff_names (word : Text) (filled : word ≠ [])
    (own : ∀ c ∈ word, Unicode.isWord c = true) (s : Text) :
    occurs word s = true ↔ ∃ name ∈ names s, occurs word name = true := by
  by_cases single : ∀ c ∈ s, (!Unicode.isWord c) = false
  · by_cases empty : s = []
    · simp [names, empty, occurs_nil filled]
    · simp [names, List.splitOnP_eq_singleton single, empty]
  · obtain ⟨c, mem, break_⟩ : ∃ c ∈ s, (!Unicode.isWord c) = true := by simpa using single
    obtain ⟨u, v, rfl⟩ := List.append_of_mem mem
    have outside : c ∉ word := fun mem => by simp [own c mem] at break_
    have cut : names (u ++ c :: v) = names u ++ names v := by
      rw [names, List.splitOnP_append_cons u v break_, List.filter_append]
      rfl
    rw [occurs_append_cons outside, cut, occurs_iff_names word filled own u,
      occurs_iff_names word filled own v]
    simp only [List.mem_append, or_and_right, exists_or]
termination_by s.length
decreasing_by
  all_goals
    subst_vars
    simp only [List.length_append, List.length_cons]
    omega

section First
variable {c d : Char} {word new : Text}

/-- A word whose first character does not come again in it is found where it stands exactly if it
is not found before that. -/
theorem cut?_append_iff (once : c ∉ word) (u v : Text) :
    cut? (c :: word) (u ++ (c :: word ++ v)) = some (u, v) ↔ occurs (c :: word) u = false := by
  constructor
  · intro found
    cases earlier : cut? (c :: word) u with
    | none => rw [occurs, earlier]; rfl
    | some sides =>
      obtain ⟨before, rest⟩ := sides
      rw [cut?_append_of_some earlier] at found
      obtain ⟨rfl, -⟩ := Prod.mk.inj (Option.some.inj found)
      have size := congrArg List.length (eq_of_cut? earlier)
      simp only [List.length_append, List.length_cons] at size
      omega
  · intro absent
    induction u with
    | nil =>
      have here : after? (c :: word) (c :: (word ++ v)) = some v := after?_append (c :: word) v
      simp [cut?, here]
    | cons e u ih =>
      rw [occurs_cons, Bool.or_eq_false_iff] at absent
      have other : after? (c :: word) (e :: (u ++ (c :: word ++ v))) = none := by
        refine Option.eq_none_iff_forall_ne_some.mpr fun r found => ?_
        have whole : e :: u ++ c :: (word ++ v) = c :: word ++ r := after?_eq_some.mp found
        -- Either the word is within what is before, or it reaches the place where it stands.
        rcases List.append_eq_append_iff.mp whole with ⟨a, spelled, behind⟩ | ⟨a, spelled, -⟩
        · rw [List.cons_append] at spelled
          obtain ⟨rfl, tail⟩ := List.cons.inj spelled
          cases a with
          | nil =>
            rw [List.append_nil] at tail
            have begun : begins (c :: word) (c :: u) = true :=
              begins_iff.mpr ⟨[], by rw [tail, List.append_nil]⟩
            exact absurd (absent.1 ▸ begun) Bool.false_ne_true
          | cons x a =>
            obtain ⟨rfl, -⟩ := List.cons.inj behind
            exact once (tail ▸ List.mem_append_right u List.mem_cons_self)
        · have begun : begins (c :: word) (e :: u) = true := begins_iff.mpr ⟨a, spelled⟩
          exact absurd (absent.1 ▸ begun) Bool.false_ne_true
      rw [List.cons_append, cut?, other, ih absent.2]
      rfl

/-- Replacing the first occurrence of a word replaces the one at a given place exactly if the word
does not occur before that. -/
theorem replaceFirst_eq_iff (once : c ∉ word) (other : c ≠ d) (u v : Text) :
    replaceFirst (c :: word) (d :: new) (u ++ (c :: word ++ v)) = u ++ (d :: new ++ v) ↔
      occurs (c :: word) u = false := by
  constructor
  · intro same
    cases earlier : cut? (c :: word) u with
    | none => rw [occurs, earlier]; rfl
    | some sides =>
      obtain ⟨before, rest⟩ := sides
      rw [replaceFirst, cut?_append_of_some earlier, eq_of_cut? earlier] at same
      simp only [List.append_assoc, List.append_cancel_left_eq, List.cons_append] at same
      exact absurd (List.cons.inj same).1.symm other
  · intro absent
    rw [replaceFirst, (cut?_append_iff once u v).mpr absent]
    exact List.append_assoc ..

theorem length_replaceFirst {word s : Text} (h : occurs word s = true) (new : Text) :
    (replaceFirst word new s).length + word.length = s.length + new.length := by
  obtain ⟨⟨before, rest⟩, found⟩ := Option.isSome_iff_exists.mp h
  have size := congrArg List.length (eq_of_cut? found)
  rw [replaceFirst, found]
  simp only [List.length_append] at size ⊢
  omega

end First
end Text

namespace Target.WebGl2
open Text
variable {σ : Type} (isFragment : Bool) (symbols : Symbols) (line : Text) (s : LineState σ)

/-- The line is taken for the declaration of an attribute. -/
def DeclaresAttribute : Prop := isFragment = false ∧ begins "attribute".toList line = true

instance : Decidable (DeclaresAttribute isFragment line) := inferInstanceAs (Decidable (_ ∧ _))

/-- What a varying is for the stage. -/
def direction : Text := if isFragment then "in".toList else "out".toList

theorem passesDeclarations : (target : Target σ).PassesDeclarations :=
  ⟨fun _ _ _ => rfl, fun _ _ => rfl, fun _ _ => rfl, fun _ _ _ => rfl⟩

theorem editInterface_eq :
    target.editInterface isFragment symbols line s =
      (if DeclaresAttribute isFragment line then
        some (replaceFirst "attribute".toList "in".toList line)
      else if occurs "varying".toList line then
        some (replaceFirst "varying".toList (direction isFragment) line)
      else none, s) := by
  have varying : (if (none : Option Text).isNone && target.declaresVarying isFragment line s.target
      then ask (target.onVarying line isFragment symbols) else pure none) s =
      (if occurs "varying".toList line then
        some (replaceFirst "varying".toList (direction isFragment) line) else none, s) := by
    change (if occurs "varying".toList line then _ else _ : StateM (LineState σ) (Option Text)) s =
      _
    split
    · rfl
    · rfl
  change ((if !isFragment && begins "attribute".toList line then _ else _ :
    StateM (LineState σ) (Option Text)) s) = _
  by_cases declared : DeclaresAttribute isFragment line
  · rw [if_pos declared]
    obtain ⟨rfl, starts⟩ := declared
    rw [starts]
    rfl
  · rw [if_neg declared]
    have other : (!isFragment && begins "attribute".toList line) = false := by
      cases isFragment with
      | true => rfl
      | false => exact Bool.eq_false_iff.mpr fun starts => declared ⟨rfl, starts⟩
    rw [other]
    exact varying

/-- A line becomes what its attribute or its varying becomes, and is kept if it declares neither. -/
theorem editLine_eq :
    (target.editLine isFragment symbols line s).1 =
      if DeclaresAttribute isFragment line then
        replaceFirst "attribute".toList "in".toList line
      else if occurs "varying".toList line then
        replaceFirst "varying".toList (direction isFragment) line
      else line := by
  -- The hooks behind that of the interface never answer.
  have behind (interface : Option Text) (declared : Declaration) (s : LineState σ) :
      ((do
        let answer ←
          if interface.isSome then pure interface
          else target.editDeclaration isFragment symbols line declared
        let last ← target.closeBlock isFragment line
        return last.getD (answer.getD line) : StateM (LineState σ) Text) s).1 =
      interface.getD line := by
    cases interface with
    | none =>
      change ((target.closeBlock isFragment line _).1.getD
        ((target.editDeclaration isFragment symbols line declared s).1.getD line)) = line
      rw [passesDeclarations.closeBlock, passesDeclarations.editDeclaration]
      rfl
    | some text =>
      change (target.closeBlock isFragment line s).1.getD text = text
      rw [passesDeclarations.closeBlock]
      rfl
  have hooks := behind (target.editInterface isFragment symbols line s).1
    (target.declaration line s.target) (target.editInterface isFragment symbols line s).2
  refine Eq.trans hooks ?_
  rw [editInterface_eq]
  split
  · rfl
  · split
    · rfl
    · rfl

theorem occurs_of_begins {word line : Text} (h : begins word line = true) :
    occurs word line = true := by
  obtain ⟨rest, rfl⟩ := begins_iff.mp h
  exact occurs_iff.mpr ⟨[], rest, rfl⟩

theorem length_editAttribute (h : begins "attribute".toList line = true) :
    (replaceFirst "attribute".toList "in".toList line).length + 7 = line.length := by
  have size := length_replaceFirst (occurs_of_begins h) "in".toList
  have word : "attribute".toList.length = 9 := rfl
  have new : "in".toList.length = 2 := rfl
  omega

theorem length_editVarying (h : occurs "varying".toList line = true) :
    (replaceFirst "varying".toList (direction isFragment) line).length + 7 =
      line.length + (direction isFragment).length :=
  length_replaceFirst h _

theorem length_direction : (direction isFragment).length = if isFragment then 2 else 3 := by
  cases isFragment <;> rfl

theorem replaceFirst_attribute (rest : Text) :
    replaceFirst "attribute".toList "in".toList ("attribute".toList ++ rest) =
      "in".toList ++ rest :=
  (replaceFirst_eq_iff (by decide) (by decide) [] rest).mpr rfl

theorem editLine_eq_self_iff :
    (target.editLine isFragment symbols line s).1 = line ↔
      ¬DeclaresAttribute isFragment line ∧ occurs "varying".toList line = false := by
  have directed := length_direction isFragment
  rw [editLine_eq]
  by_cases declared : DeclaresAttribute isFragment line
  · rw [if_pos declared]
    refine iff_of_false (fun same => ?_) fun h => h.1 declared
    have size := length_editAttribute line declared.2
    rw [same] at size
    omega
  · rw [if_neg declared]
    by_cases varying : occurs "varying".toList line = true
    · rw [if_pos varying]
      refine iff_of_false (fun same => ?_) fun h => ne_true_of_eq_false h.2 varying
      have size := length_editVarying isFragment line varying
      rw [same] at size
      split at directed <;> omega
    · rw [if_neg varying]
      exact iff_of_true rfl ⟨declared, Bool.eq_false_iff.mpr varying⟩

/-- The varying with its keyword at a given place. -/
theorem editLine_varying_iff {before rest : Text}
    (whole : line = before ++ ("varying".toList ++ rest)) :
    (target.editLine isFragment symbols line s).1 = before ++ (direction isFragment ++ rest) ↔
      ¬DeclaresAttribute isFragment line ∧ occurs "varying".toList before = false := by
  have directed := length_direction isFragment
  rw [editLine_eq]
  by_cases declared : DeclaresAttribute isFragment line
  · rw [if_pos declared]
    refine iff_of_false (fun same => ?_) fun h => h.1 declared
    have size := length_editAttribute line declared.2
    have word : "varying".toList.length = 7 := rfl
    rw [same, whole] at size
    simp only [List.length_append] at size
    split at directed <;> omega
  · have varying : occurs "varying".toList line = true :=
      occurs_iff.mpr ⟨before, rest, by rw [whole, List.append_assoc]⟩
    rw [if_neg declared, if_pos varying, and_iff_right declared, whole]
    cases isFragment with
    | true => exact replaceFirst_eq_iff (by decide) (by decide) before rest
    | false => exact replaceFirst_eq_iff (by decide) (by decide) before rest

/-- The attribute with its keyword at a given place. -/
theorem editLine_attribute_iff {before rest : Text}
    (whole : line = before ++ ("attribute".toList ++ rest)) :
    (target.editLine false symbols line s).1 = before ++ ("in".toList ++ rest) ↔ before = [] := by
  rw [editLine_eq]
  by_cases starts : begins "attribute".toList line = true
  · obtain ⟨behind, same⟩ := begins_iff.mp starts
    rw [if_pos ⟨rfl, starts⟩, same, replaceFirst_attribute]
    rw [same] at whole
    cases before with
    | nil =>
      have rests : behind = rest := List.append_cancel_left whole
      exact iff_of_true (by rw [rests]; rfl) rfl
    | cons c before =>
      refine iff_of_false (fun edited => ?_) (List.cons_ne_nil c before)
      have first : 'a' = c := (List.cons.inj whole).1
      have first' : 'i' = c := (List.cons.inj edited).1
      exact absurd (first.trans first'.symm) (by decide)
  · rw [if_neg fun declared => starts declared.2]
    refine iff_of_false (fun edited => ?_) fun empty => ?_
    · have size := congrArg List.length edited
      have longer := congrArg List.length whole
      have word : "attribute".toList.length = 9 := rfl
      have new : "in".toList.length = 2 := rfl
      have out : (direction false).length = 3 := rfl
      simp only [List.length_append] at size longer
      split at size
      · next varying =>
        have replaced := length_editVarying false line varying
        omega
      · omega
    · rw [empty, List.nil_append] at whole
      exact starts (begins_iff.mpr ⟨rest, whole⟩)

/-- A line stays as it is exactly if it does not start like an attribute in the vertex stage and no
name in it has the keyword of varyings in it. The keyword of a varying is what is replaced, and
nothing else, exactly if it does not occur before that either; and that of an attribute exactly if
the line starts with it. -/
theorem editLine_interface :
    ((target.editLine isFragment symbols line s).1 = line ↔
      ¬DeclaresAttribute isFragment line ∧
        ∀ name ∈ names line, occurs "varying".toList name = false) ∧
    (∀ before rest, line = before ++ ("varying".toList ++ rest) →
      ((target.editLine isFragment symbols line s).1 = before ++ (direction isFragment ++ rest) ↔
        ¬DeclaresAttribute isFragment line ∧ occurs "varying".toList before = false)) ∧
    ∀ before rest, isFragment = false → line = before ++ ("attribute".toList ++ rest) →
      ((target.editLine isFragment symbols line s).1 = before ++ ("in".toList ++ rest) ↔
        before = []) := by
  have letters : ∀ c ∈ "varying".toList, Unicode.isWord c = true := by
    apply List.all_eq_true.mp
    decide +kernel
  have named := occurs_iff_names "varying".toList (by decide) letters line
  refine ⟨?_, fun before rest whole => editLine_varying_iff isFragment symbols line s whole, ?_⟩
  · rw [editLine_eq_self_iff, ← Bool.not_eq_true, named]
    simp only [not_exists, not_and, Bool.not_eq_true]
  · rintro before rest rfl whole
    exact editLine_attribute_iff symbols line s whole

/-- Names that start like a keyword are rewritten in code that declares nothing, and a name in a
comment is rewritten in place of the keyword behind it. -/
theorem editLine_interface_ne :
    let edit (isFragment : Bool) (line : Text) :=
      ((target : Target Unit).editLine isFragment ∅ line { target := () }).1
    let used := "varyingColor = a;".toList
    let counted := "attributeCount = 1;".toList
    let mentioned := "/* varyings */ varying vec2 v;".toList
    ("varying".toList ∉ names used ∧ (names used).head? ≠ some "attribute".toList ∧
      edit true used = "inColor = a;".toList ∧ edit false used = "outColor = a;".toList) ∧
    ("varying".toList ∉ names counted ∧ (names counted).head? ≠ some "attribute".toList ∧
      edit false counted = "inCount = 1;".toList) ∧
    "varying".toList ∈ names mentioned ∧
      edit true mentioned = "/* ins */ varying vec2 v;".toList := by
  decide +kernel

end Target.WebGl2
end ShaderPrep
