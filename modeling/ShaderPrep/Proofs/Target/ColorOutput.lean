import ShaderPrep.Proofs.Target.Renaming
import ShaderPrep.Proofs.Target.Uniforms

/-! The output for the colour of a fragment is declared once in front of each head of the main
function that stands anywhere in the text, in a comment too. It is declared nowhere where an output
at location 0 or several draw buffers are mentioned, in a comment too. -/
namespace ShaderPrep.Text
variable {words : Text → Prop} {u u' p s x : Text} {c : Char}

/-- The text ends within a line comment. -/
def InComment (s : Text) : Prop := ∃ before rest, s = before ++ '/' :: '/' :: rest ∧ '\n' ∉ rest

/-- A word of the class stands within a line comment of the second text, which follows the first. -/
def Commented (words : Text → Prop) (u s : Text) : Prop :=
  ∃ before rest, s = before ++ rest ∧ Starts words rest ∧ InComment (u ++ before)

/-- A comment that is open behind some code has been opened behind it. -/
theorem inComment_append (code : ¬InComment u) (filled : p ≠ []) (plain : '/' ∉ p) :
    InComment (u ++ (p ++ x)) ↔ InComment x := by
  constructor
  · rintro ⟨before, rest, whole, line⟩
    rcases List.append_eq_append_iff.mp whole with ⟨a, -, tail⟩ | ⟨a, front, tail⟩
    · have slashes : Starts (· = ['/', '/']) ('/' :: '/' :: rest) := ⟨_, rest, rfl, rfl⟩
      obtain ⟨before', -, behind⟩ := exists_of_append_eq tail slashes fun v only =>
        only ▸ excludes_of_notMem plain _
      exact ⟨before', rest, behind, line⟩
    · obtain ⟨d, p, rfl⟩ := List.exists_cons_of_ne_nil filled
      match a with
      | [] => exact absurd ((List.cons.inj tail).1 ▸ List.mem_cons_self) plain
      | [_] => exact absurd ((List.cons.inj (List.cons.inj tail).2).1 ▸ List.mem_cons_self) plain
      | e :: f :: a =>
        simp only [List.cons_append, List.cons.injEq] at tail
        obtain ⟨rfl, rfl, rfl⟩ := tail
        exact absurd ⟨before, a, front, fun mem => line (List.mem_append_left _ mem)⟩ code
  · rintro ⟨before, rest, rfl, line⟩
    exact ⟨u ++ (p ++ before), rest, by simp only [List.append_assoc], line⟩

theorem not_commented_nil (filled : ∀ w, words w → w ≠ []) : ¬Commented words u [] := by
  rintro ⟨before, rest, whole, ⟨w, rest', own, rfl⟩, -⟩
  have empty := (List.append_eq_nil_iff.mp whole.symm).2
  exact filled w own (List.append_eq_nil_iff.mp empty).1

theorem commented_cons : Commented words u (c :: s) ↔
    Starts words (c :: s) ∧ InComment u ∨ Commented words (u ++ [c]) s := by
  constructor
  · rintro ⟨before, rest, whole, starts, inside⟩
    cases before with
    | nil =>
      rw [List.append_nil] at inside
      exact .inl ⟨whole ▸ starts, inside⟩
    | cons d before =>
      obtain ⟨rfl, tail⟩ := List.cons.inj whole
      rw [List.append_cons] at inside
      exact .inr ⟨before, rest, tail, starts, inside⟩
  · rintro (⟨starts, inside⟩ | ⟨before, rest, rfl, starts, inside⟩)
    · exact ⟨[], c :: s, rfl, starts, (List.append_nil u).symm ▸ inside⟩
    · rw [← List.append_cons] at inside
      exact ⟨c :: before, rest, rfl, starts, inside⟩

theorem commented_append (free : ∀ v, words v → Excludes p v) :
    Commented words u (p ++ s) ↔ Commented words (u ++ p) s := by
  constructor
  · rintro ⟨before, rest, whole, starts, inside⟩
    obtain ⟨before, rfl, tail⟩ := exists_of_append_eq whole starts free
    rw [← List.append_assoc] at inside
    exact ⟨before, rest, tail, starts, inside⟩
  · rintro ⟨before, rest, rfl, starts, inside⟩
    rw [List.append_assoc] at inside
    exact ⟨p ++ before, rest, (List.append_assoc ..).symm, starts, inside⟩

/-- Where a word starts, and no other one within it. -/
theorem commented_starts (starts : Starts words (p ++ s)) (filled : p ≠ [])
    (free : ∀ v, words v → Excludes p.tail v) :
    Commented words u (p ++ s) ↔ InComment u ∨ Commented words (u ++ p) s := by
  obtain ⟨c, p, rfl⟩ := List.exists_cons_of_ne_nil filled
  have behind : Commented words (u ++ [c]) (p ++ s) ↔ Commented words (u ++ c :: p) s := by
    rw [List.append_cons u c p]
    exact commented_append free
  rw [List.cons_append, commented_cons, behind]
  exact or_congr_left (and_iff_right starts)

/-- Where words are replaced by texts that start with a mark, the mark stands in a comment of the
result if and only if one of the words stood in a comment. -/
theorem Rule.Replaces.commented_substitute {rule : Rule} {mark new : Text}
    (h : rule.Replaces words (mark ++ new)) (filled : mark ≠ [])
    (rests : Excludes mark.tail (mark ++ new)) (once : Excludes (mark ++ new).tail mark)
    (alone : ∀ w w', words w → words w' → Excludes w.tail w')
    (plain : '/' ∉ mark ++ new) (plain' : ∀ w, words w → '/' ∉ w)
    (fresh : ¬Contains (· = mark) s) (same : ∀ x, InComment (u ++ x) ↔ InComment (u' ++ x)) :
    Commented (· = mark) u (substitute rule s) ↔ Commented words u' s := by
  induction s using h.induction generalizing u u' with
  | nil =>
    have none : ¬Commented (· = mark) u [] := not_commented_nil fun w only => only ▸ filled
    exact iff_of_false none (not_commented_nil h.filled)
  | kept c s none ih =>
    have marked : ¬Starts (· = mark) (c :: substitute rule s) := fun starts =>
      fresh ⟨[], _, rfl, h.starts_of_starts_substitute (fun v only => only ▸ rests) starts⟩
    have inner : ¬Contains (· = mark) s := fun ⟨before, rest, whole, starts⟩ =>
      fresh ⟨c :: before, rest, congrArg (c :: ·) whole, starts⟩
    rw [substitute_cons_of_none none, commented_cons, commented_cons]
    simp only [marked, h.eq_none_iff.mp none, false_and, false_or]
    exact ih inner fun x => by simpa only [List.append_assoc] using same ([c] ++ x)
  | replaced w s own ih =>
    have inner : ¬Contains (· = mark) s := fun ⟨before, rest, whole, starts⟩ =>
      fresh ⟨w ++ before, rest, by rw [whole, List.append_assoc], starts⟩
    have starts : Starts (· = mark) (mark ++ new ++ substitute rule s) :=
      ⟨mark, _, rfl, List.append_assoc ..⟩
    have first : InComment u ↔ InComment u' := by simpa only [List.append_nil] using same []
    have filled' : mark ++ new ≠ [] := List.append_ne_nil_of_left_ne_nil filled new
    rw [h.substitute_append own, commented_starts starts filled' fun v only => only ▸ once,
      commented_starts ⟨w, s, own, rfl⟩ (h.filled w own) (alone w · own), first]
    -- in a comment the mark itself stands in it; outside of one none is opened on the way
    by_cases comment : InComment u'
    · exact iff_of_true (.inl comment) (.inl comment)
    · refine or_congr_right (ih inner fun x => ?_)
      rw [List.append_assoc u, List.append_assoc u',
        inComment_append (first.not.mpr comment) filled' plain,
        inComment_append comment (h.filled w own) (plain' w own)]

end ShaderPrep.Text

namespace ShaderPrep.Target.WebGl2
open Text
variable {code s v w : Text}

/-- The declaration of the output that the colour is written to. -/
def declaration : Text := "layout(location = 0) out vec4 glFragColor;".toList

/-- What takes the place of the head of the main function where no output is declared. -/
theorem mainPass_colorOutput_new :
    (mainPass colorOutput).new = declaration ++ '\n' :: "void main(".toList := by
  decide +kernel

/-- What the heads of the main function are looked for in. -/
def renamed (code : Text) : Text := Pass.run renamings (dropExtensions code)

/-- A head of the main function starts here. -/
def startsMain (s : Text) : Bool := (mainRule [] s).isSome

theorem startsMain_iff : startsMain s = true ↔ Starts IsMainHead s :=
  (replaces_mainHeads []).isSome_iff

theorem convertFragment_eq_substitute (code : Text) :
    convertFragment code = substitute (mainPass (declarationFor code)).rule (renamed code) := by
  rw [convertFragment_eq, Pass.run_append]
  rfl

section Heads

theorem IsMainHead.not_mem (head : IsMainHead w) {c : Char} (visible : Unicode.isBlank c = false)
    (other : c ∉ "voidmain(".toList) : c ∉ w := by
  obtain ⟨gap, blanks, -, gapBlank, blank, rfl⟩ := head
  have first := gapBlank.not_mem visible
  have last := blank.not_mem visible
  intro mem
  simp only [List.mem_append, List.mem_singleton] at mem
  rcases mem with mem | mem | mem | mem | rfl
  · exact other (List.mem_append_left "main(".toList mem)
  · exact first mem
  · exact other (List.mem_append_right "void".toList (List.mem_append_left ['('] mem))
  · exact last mem
  · exact other (by decide)

/-- A head of the main function has its first letter once. -/
theorem IsMainHead.eq_cons (head : IsMainHead w) : ∃ t, w = 'v' :: t ∧ 'v' ∉ t := by
  obtain ⟨gap, blanks, -, gapBlank, blank, rfl⟩ := head
  have visible : Unicode.isBlank 'v' = false := by decide
  have void : "void".toList = 'v' :: "oid".toList := by decide +kernel
  rw [void, List.cons_append]
  refine ⟨_, rfl, ?_⟩
  simp only [List.mem_append, not_or]
  exact ⟨by decide, gapBlank.not_mem visible, by decide, blank.not_mem visible, by decide⟩

theorem IsMainHead.alone (head : IsMainHead v) (head' : IsMainHead w) : Excludes v.tail w := by
  obtain ⟨t, rfl, free⟩ := head.eq_cons
  obtain ⟨t', rfl, -⟩ := head'.eq_cons
  exact excludes_of_notMem free t'

/-- A word that neither holds nor starts with what a head of the main function does. -/
def Foreign (w : Text) : Prop :=
  'v' ∉ w ∧ w.head?.any (fun c => !Unicode.isBlank c && decide (c ∉ "voidmain(".toList)) = true

instance (w : Text) : Decidable (Foreign w) := inferInstanceAs (Decidable (_ ∧ _))

theorem Foreign.separate (foreign : Foreign w) (head : IsMainHead v) : Separate v w := by
  obtain ⟨free, start⟩ := foreign
  obtain ⟨t, whole, -⟩ := head.eq_cons
  constructor
  · apply excludes_of_head start
    intro c other
    simp only [Bool.and_eq_true, Bool.not_eq_true', decide_eq_true_eq] at other
    exact head.not_mem other.1 other.2
  · rw [whole]
    exact excludes_of_notMem free t

theorem IsCall.foreign {name : Text} (call : IsCall name w) (foreign : Foreign name) :
    Foreign w := by
  obtain ⟨blanks, blank, rfl⟩ := call
  obtain ⟨free, start⟩ := foreign
  constructor
  · simp only [List.mem_append, not_or]
    exact ⟨free, blank.not_mem (by decide), by decide⟩
  · cases name with
    | nil => cases start
    | cons c name => exact start

theorem callPass_foreign {name new : Text} (old : Foreign name) (other : Foreign (new ++ ['('])) :
    Foreign (callPass name new).new ∧ ∀ w, (callPass name new).words w → Foreign w :=
  ⟨other, fun _ call => IsCall.foreign call old⟩

theorem wordPass_foreign {word new : Text} {filled : word ≠ []} (old : Foreign word)
    (other : Foreign new) :
    Foreign (wordPass word new filled).new ∧ ∀ w, (wordPass word new filled).words w → Foreign w :=
  ⟨other, fun _ only => only ▸ old⟩

theorem renamings_foreign : ∀ p ∈ renamings, Foreign p.new ∧ ∀ w, p.words w → Foreign w := by
  simp only [renamings, List.forall_mem_cons]
  exact ⟨callPass_foreign (by decide +kernel) (by decide +kernel),
    callPass_foreign (by decide +kernel) (by decide +kernel),
    callPass_foreign (by decide +kernel) (by decide +kernel),
    callPass_foreign (by decide +kernel) (by decide +kernel),
    wordPass_foreign (by decide +kernel) (by decide +kernel),
    wordPass_foreign (by decide +kernel) (by decide +kernel),
    wordPass_foreign (by decide +kernel) (by decide +kernel), List.forall_mem_nil _⟩

/-- Renaming neither makes a head of the main function nor breaks one. -/
theorem placeCount_startsMain_renamed (code : Text) :
    placeCount startsMain (renamed code) = placeCount startsMain (dropExtensions code) := by
  apply Pass.placeCount_run fun _ => startsMain_iff
  intro p mem v head
  obtain ⟨new, words⟩ := renamings_foreign p mem
  exact ⟨new.separate head, fun w own => (words w own).separate head⟩

end Heads

section Insertion

theorem declaration_separate (head : IsMainHead w) : Separate declaration w := by
  have free : 'l' ∉ w := head.not_mem (by decide) (by decide)
  obtain ⟨gap, blanks, -, -, -, rfl⟩ := head
  have void : Excludes declaration "void".toList := by decide +kernel
  exact ⟨void.append_right _, excludes_of_notMem free _⟩

/-- Renaming does not make the declaration out of something else. -/
theorem not_contains_declaration (undeclared : declares code = false) :
    ¬Contains (· = declaration) (renamed code) := by
  have run : renamed code =
      Pass.run renamings.tail (renameCalls "texture2D" "texture" (dropExtensions code)) := by
    rw [renamed, renamings]
    exact List.foldl_cons ..
  have none := (Bool.or_eq_false_iff.mp undeclared).2
  -- the name of the output is what a renaming puts in, what precedes it is not
  let leading : Text := "layout(location = 0) out ".toList
  have absent : ¬Contains (· = leading)
      (renameCalls "texture2D" "texture" (dropExtensions code)) := by
    rintro ⟨before, _, whole, _, rest, rfl, rfl⟩
    exact Bool.eq_false_iff.mp none (somewhere_iff.mpr ⟨before, leading ++ rest, whole, rfl⟩)
  have apart : ∀ p ∈ renamings.tail, ∀ v, v = leading → Separate v p.new := by
    have spared : ∀ p ∈ renamings.tail, Separate leading p.new := by decide +kernel
    rintro p mem _ rfl
    exact spared p mem
  rintro ⟨before, rest, whole, _, rest', rfl, same⟩
  rw [run] at whole
  have longer : declaration = leading ++ "vec4 glFragColor;".toList := by decide +kernel
  rw [longer, List.append_assoc] at same
  exact Pass.not_contains_run apart absent ⟨before, rest, whole, leading, _, rfl, same⟩

theorem placeCount_substitute_void (s : Text) :
    placeCount (begins declaration) (substitute (mainPass []).rule s) =
      placeCount (begins declaration) s := by
  have new : Separate declaration (mainPass []).new := by decide +kernel
  apply (mainPass []).replaces.placeCount_substitute fun _ => begins_iff_starts
  rintro _ rfl
  exact ⟨new, fun w head => declaration_separate head⟩

theorem placeCount_substitute_colorOutput (s : Text) :
    placeCount (begins declaration) (substitute (mainPass colorOutput).rule s) =
      placeCount (begins declaration) s + placeCount startsMain s := by
  have rests : Excludes declaration.tail (mainPass colorOutput).new := by decide +kernel
  have once : Excludes (mainPass colorOutput).new.tail declaration := by decide +kernel
  have inserted (t : Text) : placeCount (begins declaration) ((mainPass colorOutput).new ++ t) =
      1 + placeCount (begins declaration) t := by
    have behind : placeCount (begins declaration) ((mainPass colorOutput).new.tail ++ t) =
        placeCount (begins declaration) t := by
      apply placeCount_append fun _ => begins_iff_starts
      rintro _ rfl
      exact once
    rw [← behind]
    rfl
  have all := (mainPass colorOutput).replaces.placeCount_substitute_add
    (fun _ => begins_iff_starts) (fun _ => startsMain_iff) 1 inserted
    (fun v only => only ▸ rests) (fun v w only head => only ▸ declaration_separate head)
    (fun _ _ head head' => head.alone head') s
  rwa [Nat.one_mul] at all

theorem commented_substitute_colorOutput (fresh : ¬Contains (· = declaration) s) :
    Commented (· = declaration) [] (substitute (mainPass colorOutput).rule s) ↔
      Commented IsMainHead [] s := by
  have plain (w : Text) (head : IsMainHead w) : '/' ∉ w := head.not_mem (by decide) (by decide)
  have replaces := (mainPass colorOutput).replaces
  rw [mainPass_colorOutput_new] at replaces
  exact replaces.commented_substitute (by decide) (by decide +kernel) (by decide +kernel)
    (fun _ _ head head' => head.alone head') (by decide) plain fresh fun _ => Iff.rfl

end Insertion

/-- Where an output is declared, the conversion of a fragment stage puts no declaration in. Else it
puts in as many as there are heads of the main function, and one into a comment exactly if there is
a head in one. -/
theorem afterConditionals_colorOutput (code : Text) (defines : List Text) (engine : Option Engine)
    (state : σ) :
    ∃ text, (target.afterConditionals code defines true engine state).1 = some text ∧
      placeCount (begins declaration) text =
        (if declares code then placeCount (begins declaration) (renamed code)
          else placeCount startsMain (dropExtensions code)) ∧
      (declares code = false →
        (Commented (· = declaration) [] text ↔ Commented IsMainHead [] (renamed code))) := by
  refine ⟨convertFragment code, rfl, ?_⟩
  rw [convertFragment_eq_substitute, declarationFor]
  cases declared : declares code with
  | true => exact ⟨placeCount_substitute_void (renamed code), fun undeclared => nomatch undeclared⟩
  | false =>
    have fresh := not_contains_declaration declared
    have none := placeCount_eq_zero (fun _ => begins_iff_starts) fresh
    refine ⟨?_, fun _ => commented_substitute_colorOutput fresh⟩
    calc placeCount (begins declaration) (substitute (mainPass colorOutput).rule (renamed code))
      _ = placeCount (begins declaration) (renamed code) + placeCount startsMain (renamed code) :=
        placeCount_substitute_colorOutput (renamed code)
      _ = placeCount startsMain (dropExtensions code) := by
        rw [none, Nat.zero_add, placeCount_startsMain_renamed]

/-- A comment about the main function and a prototype of it get a declaration of their own, and an
output in a comment keeps the declaration out. -/
theorem afterConditionals_colorOutput_ne :
    let convert (code : Text) := ((target : Target Unit).afterConditionals code [] true none ()).1
    let mentioned := "// void main() is below\nvoid main() \x7b\n\x7d\n".toList
    let promised := "void main();\nvoid main() \x7b\n\x7d\n".toList
    let described := "// layout(location = 0) out vec4 c;\nvoid main() \x7b\n\x7d\n".toList
    (convert mentioned).map (placeCount (begins declaration)) = some 2 ∧
      convert mentioned = some ("// ".toList ++ declaration ++ "\nvoid main() is below\n".toList ++
        declaration ++ "\nvoid main() \x7b\n\x7d\n".toList) ∧
      (convert promised).map (placeCount (begins declaration)) = some 2 ∧
      convert described = some described ∧ placeCount (begins declaration) described = 0 := by
  decide +kernel

end ShaderPrep.Target.WebGl2
