import ShaderPrep.Proofs.Processing.Respelling
import ShaderPrep.Proofs.Text.Passes

/-! Sources for the second WebGL version have no construct of the first one left that has another
name by now. Each pass replaces all that it looks for, and nothing that a pass puts in overlaps what
an earlier one has taken out, so that no later pass brings it back. -/
namespace ShaderPrep.Target.WebGl2
open Text

section Calls
variable {name new w : Text}

/-- The head of a call: a name and a parenthesis, with blanks between. -/
def IsCall (name w : Text) : Prop := ∃ blanks, IsBlank blanks ∧ w = name ++ (blanks ++ ['('])

theorem takeWhile_blanks {blanks : Text} (blank : IsBlank blanks) {c : Char}
    (stop : Unicode.isBlank c = false) (rest : Text) :
    (blanks ++ c :: rest).takeWhile Unicode.isBlank = blanks ∧
      (blanks ++ c :: rest).dropWhile Unicode.isBlank = c :: rest := by
  rw [List.takeWhile_append_of_pos blank, List.dropWhile_append_of_pos blank,
    List.takeWhile_cons_of_neg (by simp [stop]), List.dropWhile_cons_of_neg (by simp [stop]),
    List.append_nil]
  exact ⟨rfl, rfl⟩

theorem isBlank_takeWhile (s : Text) : IsBlank (s.takeWhile Unicode.isBlank) :=
  List.all_eq_true.mp List.all_takeWhile

theorem opened_iff {s rest : Text} :
    after? ['('] (s.dropWhile Unicode.isBlank) = some rest ↔
      s = s.takeWhile Unicode.isBlank ++ '(' :: rest := by
  rw [after?_eq_some]
  conv => rhs; lhs; rw [← List.takeWhile_append_dropWhile (p := Unicode.isBlank) (l := s)]
  exact (List.append_cancel_left_eq ..).symm.to_iff

theorem callRule_eq_some {s x : Text} {n : Nat} :
    callRule name new s = some (x, n) ↔ x = new ++ ['('] ∧
      ∃ w rest, IsCall name w ∧ s = w ++ rest ∧ n = w.length := by
  constructor
  · intro found
    simp only [callRule, Option.bind_eq_bind, Option.bind_eq_some_iff] at found
    obtain ⟨rest, called, behind, opened, same⟩ := found
    obtain ⟨rfl, rfl⟩ := Prod.mk.inj (Option.some.inj same)
    refine ⟨rfl, name ++ (rest.takeWhile Unicode.isBlank ++ ['(']), behind,
      ⟨_, isBlank_takeWhile rest, rfl⟩, ?_, ?_⟩
    · rw [after?_eq_some.mp called]
      conv => lhs; rw [opened_iff.mp opened]
      simp
    · simp only [List.length_append, List.length_singleton, Nat.add_assoc]
  · rintro ⟨rfl, _, rest, ⟨blanks, blank, rfl⟩, rfl, rfl⟩
    have cut : name ++ (blanks ++ ['(']) ++ rest = name ++ (blanks ++ '(' :: rest) := by simp
    obtain ⟨taken, dropped⟩ := takeWhile_blanks blank (c := '(') (by decide) rest
    have opened : after? ['('] ('(' :: rest) = some rest := after?_append ['('] rest
    simp only [callRule, cut, after?_append, Option.bind_eq_bind, Option.bind_some, taken, dropped,
      opened, List.length_append, List.length_singleton, Nat.add_assoc]
    rfl

theorem replaces_calls (name new : Text) :
    (callRule name new).Replaces (IsCall name) (new ++ ['(']) where
  iff _ _ _ := callRule_eq_some
  filled := by
    rintro _ ⟨blanks, -, rfl⟩
    simp

/-- What is put in neither overlaps the name of a call nor starts like what follows the name. -/
def SparesCalls (name new : Text) : Prop :=
  Separate name new ∧ new.head?.any (fun c => !Unicode.isBlank c && c ≠ '(') = true

instance (name new : Text) : Decidable (SparesCalls name new) :=
  inferInstanceAs (Decidable (_ ∧ _))

theorem SparesCalls.separate (h : SparesCalls name new) (call : IsCall name w) :
    Separate w new := by
  obtain ⟨blanks, blank, rfl⟩ := call
  obtain ⟨⟨before, behind⟩, start⟩ := h
  have rest : Excludes (blanks ++ ['(']) new := by
    apply excludes_of_head start
    intro c other
    simp only [Bool.and_eq_true, Bool.not_eq_true', decide_eq_true_eq] at other
    rw [List.mem_append, List.mem_singleton, not_or]
    exact ⟨blank.not_mem other.1, other.2⟩
  exact ⟨before.append rest, behind.append_right _⟩

end Calls

section Main
variable {new w : Text}

/-- The head of the main function. -/
def IsMainHead (w : Text) : Prop :=
  ∃ gap blanks, gap ≠ [] ∧ IsBlank gap ∧ IsBlank blanks ∧
    w = "void".toList ++ (gap ++ ("main".toList ++ (blanks ++ ['('])))

theorem afterBlanks?_eq_some {s rest : Text} (found : afterBlanks? s = some rest) :
    s.takeWhile Unicode.isBlank ≠ [] ∧ s = s.takeWhile Unicode.isBlank ++ rest := by
  cases s with
  | nil => cases found
  | cons c s =>
    rw [afterBlanks?] at found
    split at found
    · next blank =>
      obtain rfl := Option.some.inj found
      rw [List.takeWhile_cons_of_pos blank, List.cons_append, List.takeWhile_append_dropWhile]
      exact ⟨List.cons_ne_nil _ _, rfl⟩
    · cases found

theorem afterBlanks?_append {gap : Text} (filled : gap ≠ []) (blank : IsBlank gap) {c : Char}
    (stop : Unicode.isBlank c = false) (rest : Text) :
    afterBlanks? (gap ++ c :: rest) = some (c :: rest) := by
  have dropped := (takeWhile_blanks blank stop rest).2
  obtain ⟨d, gap, rfl⟩ := List.exists_cons_of_ne_nil filled
  have first : Unicode.isBlank d = true := blank d List.mem_cons_self
  rw [List.cons_append, List.dropWhile_cons_of_pos first] at dropped
  rw [List.cons_append, afterBlanks?, if_pos first, dropped]

theorem mainRule_eq_some {s x : Text} {n : Nat} :
    mainRule new s = some (x, n) ↔ x = new ∧
      ∃ w rest, IsMainHead w ∧ s = w ++ rest ∧ n = w.length := by
  constructor
  · intro found
    simp only [mainRule, Option.bind_eq_bind, Option.bind_eq_some_iff] at found
    obtain ⟨rest, typed, rest', apart, behind, named, rest'', opened, same⟩ := found
    obtain ⟨rfl, rfl⟩ := Prod.mk.inj (Option.some.inj same)
    obtain ⟨filled, gap⟩ := afterBlanks?_eq_some apart
    refine ⟨rfl, "void".toList ++ (rest.takeWhile Unicode.isBlank ++ ("main".toList ++
      (behind.takeWhile Unicode.isBlank ++ ['(']))), rest'',
      ⟨_, _, filled, isBlank_takeWhile rest, isBlank_takeWhile behind, rfl⟩, ?_, ?_⟩
    · have tail : behind = behind.takeWhile Unicode.isBlank ++ '(' :: rest'' := opened_iff.mp opened
      calc s = "void".toList ++ rest := after?_eq_some.mp typed
        _ = "void".toList ++ (rest.takeWhile Unicode.isBlank ++ rest') := by rw [← gap]
        _ = "void".toList ++ (rest.takeWhile Unicode.isBlank ++ ("main".toList ++
            (behind.takeWhile Unicode.isBlank ++ '(' :: rest''))) := by
          rw [after?_eq_some.mp named, ← tail]
        _ = _ := by simp only [List.append_assoc, List.singleton_append]
    · simp only [List.length_append, List.length_singleton, Nat.add_assoc]
      rfl
  · rintro ⟨rfl, _, rest, ⟨gap, blanks, filled, gapBlank, blank, rfl⟩, rfl, rfl⟩
    have cut : "void".toList ++ (gap ++ ("main".toList ++ (blanks ++ ['(']))) ++ rest =
        "void".toList ++ (gap ++ 'm' :: ("ain".toList ++ (blanks ++ '(' :: rest))) := by
      simp [show "main".toList = 'm' :: "ain".toList from rfl]
    have named : after? "main".toList ('m' :: ("ain".toList ++ (blanks ++ '(' :: rest))) =
        some (blanks ++ '(' :: rest) := after?_append "main".toList _
    have opened : after? ['('] ('(' :: rest) = some rest := after?_append ['('] rest
    have first := takeWhile_blanks gapBlank (c := 'm') (by decide)
      ("ain".toList ++ (blanks ++ '(' :: rest))
    have second := takeWhile_blanks blank (c := '(') (by decide) rest
    rw [mainRule, cut]
    simp only [after?_append, Option.bind_eq_bind, Option.bind_some, named, opened,
      afterBlanks?_append filled gapBlank (c := 'm') (by decide), first.1, second.1, second.2,
      List.length_append, List.length_singleton, Nat.add_assoc]
    rfl

theorem replaces_mainHeads (new : Text) : (mainRule new).Replaces IsMainHead new where
  iff _ _ _ := mainRule_eq_some
  filled := by
    rintro _ ⟨gap, blanks, -, -, -, rfl⟩
    exact List.cons_ne_nil _ _

end Main

/-- The pass that renames calls. -/
def callPass (name new : Text) : Pass :=
  ⟨callRule name new, IsCall name, new ++ ['('], replaces_calls name new⟩

/-- The pass that replaces a word. -/
def wordPass (word new : Text) (filled : word ≠ []) : Pass :=
  ⟨wordRule word new, (· = word), new, replaces_word filled new⟩

/-- The pass that puts a declaration in front of the main function. -/
def mainPass (declaration : Text) : Pass :=
  ⟨mainRule (declaration ++ "void main(".toList), IsMainHead, declaration ++ "void main(".toList,
    replaces_mainHeads _⟩

/-- The passes that rename in a fragment stage. -/
def renamings : List Pass :=
  [callPass "texture2D".toList "texture".toList,
    callPass "texture2DLodEXT".toList "textureLod".toList,
    callPass "textureCubeLodEXT".toList "textureLod".toList,
    callPass "textureCube".toList "texture".toList,
    wordPass "gl_FragDepthEXT".toList "gl_FragDepth".toList (by decide),
    wordPass "gl_FragColor".toList "glFragColor".toList (by decide),
    wordPass "gl_FragData".toList "glFragData".toList (by decide)]

/-- Nothing is put in front of the main function where an output is declared. -/
def declares (code : Text) : Bool :=
  requiresDrawBuffers code ||
    declaresOutput (renameCalls "texture2D" "texture" (dropExtensions code))

/-- What is put in front of the main function of a fragment stage. -/
def declarationFor (code : Text) : Text := if declares code then [] else colorOutput

theorem convertFragment_eq (code : Text) :
    convertFragment code =
      Pass.run (renamings ++ [mainPass (declarationFor code)]) (dropExtensions code) := by
  simp only [convertFragment, renamings, Pass.run, List.cons_append, List.nil_append,
    List.foldl_cons, List.foldl_nil]
  rfl

theorem convertVertex_eq_run (code : Text) (defines : List Text) :
    convertVertex code defines = header defines ++
      Pass.run [callPass "texture2D".toList "texture".toList] (dropExtensions code) :=
  convertVertex_eq code defines

/-- The names of calls that have other names by now. -/
def obsoleteCalls : List Text :=
  ["texture2D", "texture2DLodEXT", "textureCubeLodEXT", "textureCube"].map String.toList

/-- The outputs that have other names by now. -/
def obsoleteOutputs : List Text := ["gl_FragColor", "gl_FragData"].map String.toList

theorem exists_call_pass : ∀ name ∈ obsoleteCalls, ∃ p ∈ renamings, p.words = IsCall name := by
  have pass (i : Fin 7) : renamings.get i ∈ renamings := List.get_mem renamings i
  simp only [obsoleteCalls, List.map_cons, List.map_nil, List.forall_mem_cons]
  exact ⟨⟨_, pass 0, rfl⟩, ⟨_, pass 1, rfl⟩, ⟨_, pass 2, rfl⟩, ⟨_, pass 3, rfl⟩,
    List.forall_mem_nil _⟩

theorem exists_word_pass : ∀ word ∈ obsoleteOutputs, ∃ p ∈ renamings, p.words = (· = word) := by
  have pass (i : Fin 7) : renamings.get i ∈ renamings := List.get_mem renamings i
  simp only [obsoleteOutputs, List.map_cons, List.map_nil, List.forall_mem_cons]
  exact ⟨⟨_, pass 5, rfl⟩, ⟨_, pass 6, rfl⟩, List.forall_mem_nil _⟩

/-- What the passes put in overlaps nothing that is obsolete. -/
theorem spares_obsolete (declared : Bool) :
    ∀ p ∈ renamings ++ [mainPass (if declared then [] else colorOutput)],
      (∀ name ∈ obsoleteCalls, SparesCalls name p.new) ∧
        ∀ word ∈ obsoleteOutputs, Separate word p.new := by
  cases declared <;> decide +kernel

theorem not_contains_convertFragment (code : Text) {words : Text → Prop}
    (replaced : ∃ p ∈ renamings, p.words = words)
    (free : ∀ q ∈ renamings ++ [mainPass (declarationFor code)], ∀ v, words v → Separate v q.new) :
    ¬Contains words (convertFragment code) := by
  obtain ⟨p, mem, rfl⟩ := replaced
  rw [convertFragment_eq]
  exact Pass.not_contains_of_mem (List.mem_append_left _ mem) free _

theorem excludes_header (defines : List Text) {w : Text} (call : IsCall "texture2D".toList w) :
    Excludes (header defines) w := by
  have name : Excludes (header defines) "texture2D".toList := by
    rw [header]
    split <;> decide +kernel
  obtain ⟨blanks, -, rfl⟩ := call
  exact name.append_right _

/-- No call of a lookup that is obsolete is left in a fragment stage, and no obsolete output, and in
a vertex stage no call of the lookup in flat textures. -/
theorem afterConditionals_obsolete (code : Text) (defines : List Text) (engine : Option Engine)
    (state : σ) :
    (∃ text, (target.afterConditionals code defines true engine state).1 = some text ∧
      (∀ name ∈ obsoleteCalls, ¬Contains (IsCall name) text) ∧
      ∀ word ∈ obsoleteOutputs, occurs word text = false) ∧
    ∃ text, (target.afterConditionals code defines false engine state).1 = some text ∧
      ¬Contains (IsCall "texture2D".toList) text := by
  have spares := spares_obsolete (declares code)
  constructor
  · refine ⟨convertFragment code, rfl, fun name mem => ?_, fun word mem => ?_⟩
    · apply not_contains_convertFragment code (exists_call_pass name mem)
      exact fun q pass v call => ((spares q pass).1 name mem).separate call
    · rw [← Bool.not_eq_true, ← contains_word_iff]
      apply not_contains_convertFragment code (exists_word_pass word mem)
      rintro q pass _ rfl
      exact (spares q pass).2 _ mem
  · refine ⟨convertVertex code defines, rfl, ?_⟩
    have obsolete : "texture2D".toList ∈ obsoleteCalls := .head _
    rw [convertVertex_eq_run]
    apply not_contains_append fun v call => excludes_header defines call
    apply Pass.not_contains_of_mem (.head _)
    intro q only v call
    obtain rfl := List.mem_singleton.mp only
    exact ((spares _ (.head _)).1 _ obsolete).separate call

end ShaderPrep.Target.WebGl2
