import ShaderPrep.Proofs.Conditional.Output

/-! Comments between the lines of a source. A comment without a keyword leaves all conditionals as
they are. One with a keyword counts as a line of that keyword, so it opens, closes or ends what it
stands in; only where it would continue an inactive branch with a guard it is passed over. -/
namespace ShaderPrep

theorem toLower_eq_hash {c : Char} (h : c.toLower = '#') : c = '#' := by
  by_cases upper : c.val ≥ 'A'.val ∧ c.val ≤ 'Z'.val
  · have lowered : c.toLower.val = c.val + ('a'.val - 'A'.val) := by
      have whole : c.toLower = _ := dif_pos upper
      rw [whole]
    have lower := UInt32.le_iff_toNat_le.mp upper.1
    have higher := UInt32.le_iff_toNat_le.mp upper.2
    have value := congrArg UInt32.toNat lowered
    rw [h, UInt32.toNat_add] at value
    have a : 'A'.val.toNat = 65 := rfl
    have z : 'Z'.val.toNat = 90 := rfl
    have step : ('a'.val - 'A'.val).toNat = 32 := rfl
    have hash : '#'.val.toNat = 35 := rfl
    omega
  · have same : c.toLower = c := dif_neg upper
    exact same ▸ h

theorem Line.IsComment.head_ne {line : Text} (h : IsComment line) : line.head? ≠ some '#' := by
  intro start
  obtain ⟨t, rfl⟩ : ∃ t, line = '#' :: t := by
    cases line with
    | nil => cases start
    | cons c t => exact ⟨t, by rw [Option.some.inj start]⟩
  obtain ⟨rest, trimmed⟩ := Text.begins_iff.mp h
  have whole : Text.trimStart ('#' :: t) = '#' :: t := List.dropWhile_cons_of_neg (by decide)
  have inside : "//".toList ++ rest <+: '#' :: t := by
    rw [← trimmed, Text.trim, whole]
    exact Text.trimEnd_prefix _
  have first := (List.cons_prefix_cons.mp inside).1
  exact absurd first (by decide)

namespace Tree

/-- Only a line that starts with the mark of keywords goes on with a block. -/
theorem Continuation.ofLine_of_head {line : Text} (h : line.head? ≠ some '#') :
    ofLine line = .none := by
  have start := Text.splitAtByte?_prefix 5 line
  simp only [ofLine]
  generalize ((Text.splitAtByte? 5 line).map Prod.fst).getD line = front at start
  have other (k : Keyword) : Text.lowercase front ≠ k.spelling := by
    intro same
    obtain ⟨word, spelled⟩ : ∃ word, k.spelling = '#' :: word := by cases k <;> exact ⟨_, rfl⟩
    rw [spelled] at same
    cases front with
    | nil => cases same
    | cons c front =>
      obtain ⟨rest, rfl⟩ := start
      exact h (congrArg some (toLower_eq_hash (List.cons.inj same).1))
  rw [if_neg (other .otherwise), if_neg (other .elseIf)]

namespace Reading
variable {edit : LineEdit τ} {r : Reading τ}

section Closing

/-- Every open block has a frame, and lines are active once all blocks are closed. -/
def Sound (r : Reading τ) : Prop :=
  r.machine.frames.length = r.resorts.length ∧
    r.machine.frames.foldl (fun _ frame => frame.parent) r.machine.active = true

theorem Sound.openBlock (h : r.Sound) (guard : Guard) : (r.openBlock guard).Sound :=
  ⟨congrArg (· + 1) h.1, h.2⟩

theorem Sound.closeBlock (h : r.Sound) : r.closeBlock.Sound := by
  obtain ⟨⟨frames, active, output, edited, state⟩, resorts, ended⟩ := r
  obtain ⟨size, around⟩ := h
  cases frames with
  | nil =>
    obtain rfl : resorts = [] := List.length_eq_zero_iff.mp size.symm
    exact ⟨rfl, around⟩
  | cons frame outer =>
    obtain ⟨resort, others, rfl⟩ := List.exists_cons_of_length_eq_add_one size.symm
    exact ⟨Nat.succ.inj size, around⟩

theorem Sound.nextBranch (h : r.Sound) (blocks : r.resorts ≠ []) (guard : Option Guard) :
    (r.nextBranch guard).Sound := by
  obtain ⟨⟨frames, active, output, edited, state⟩, resorts, ended⟩ := r
  obtain ⟨size, around⟩ := h
  obtain ⟨resort, others, rfl⟩ := List.exists_cons_of_ne_nil blocks
  cases frames with
  | nil => cases size
  | cons frame outer => exact ⟨size, around⟩

theorem Sound.read (h : r.Sound) (line : Text) : (r.read edit line).Sound := by
  unfold Reading.read
  split
  · exact h
  have emitted : ({ r with machine := r.machine.emit edit line } : Reading τ).Sound := by
    obtain ⟨⟨frames, active, output, edited, state⟩, resorts, ended⟩ := r
    cases active with
    | false => exact h
    | true => exact h
  have continued {resort : Bool} {outer : List Bool} (open_ : r.resorts = resort :: outer) :
      (r.continueBlock resort line).Sound := by
    have blocks : r.resorts ≠ [] := by simp [open_]
    unfold Reading.continueBlock
    split
    · exact h.closeBlock
    · split
      · exact h.nextBranch blocks _
      · exact h.nextBranch blocks _
      · exact h
  split
  · exact emitted
  · exact h.openBlock _
  · exact h.openBlock _
  · exact h.openBlock _
  · exact h.closeBlock
  · next open_ => exact continued open_
  · next open_ => exact continued open_
  · exact h

theorem sound_run (edit : LineEdit τ) (lines : List Text) (start : RenderState τ) :
    (run edit lines start).Sound := by
  have fold {r : Reading τ} (h : r.Sound) : (lines.foldl (read edit) r).Sound := by
    induction lines generalizing r with
    | nil => exact h
    | cons line rest ih => exact ih (h.read line)
  exact fold ⟨rfl, rfl⟩

theorem closeBlock_output (r : Reading τ) : r.closeBlock.machine.output = r.machine.output := by
  obtain ⟨⟨frames, active, output, edited, state⟩, resorts, ended⟩ := r
  cases frames <;> rfl

theorem read_endif {resort : Bool} {outer : List Bool} (ended : r.ended = false)
    (inside : r.resorts = resort :: outer) :
    r.read edit Keyword.endif.spelling = r.closeBlock := by
  have word : Keyword.first? Keyword.endif.spelling = some .endif := by decide
  simp [read, ended, word, inside]

theorem read_endif_outside (ended : r.ended = false) (outside : r.resorts = []) :
    r.read edit Keyword.endif.spelling = { r with ended := true } := by
  have word : Keyword.first? Keyword.endif.spelling = some .endif := by decide
  simp [read, ended, word, outside]

/-- Lines that close `n` blocks, and code behind them. -/
def probe (n : Nat) : List Text := List.replicate n Keyword.endif.spelling ++ [['x']]

theorem stable_of_mem_probe (n : Nat) : ∀ line ∈ probe n, Line.Stable line := by
  intro line h
  rcases List.mem_append.mp h with ends | code
  · rw [List.eq_of_mem_replicate ends]
    decide
  · rw [List.mem_singleton.mp code]
    decide

/-- Code is put out behind as many ends as there are blocks. -/
theorem output_probe (keeps : ∀ symbols line state, (edit symbols line state).1 = line)
    (h : r.Sound) (ended : r.ended = false) :
    ((probe r.resorts.length).foldl (read edit) r).machine.output =
      r.machine.output ++ (['x'] ++ lineEnd) := by
  generalize size : r.resorts.length = n
  induction n generalizing r with
  | zero =>
    have outside : r.machine.frames = [] := List.length_eq_zero_iff.mp (h.1.trans size)
    have active : r.machine.active = true := by
      have around := h.2
      rwa [outside] at around
    have free : Keyword.first? ['x'] = none := by decide
    change (r.read edit ['x']).machine.output = _
    rw [read_of_free free ended, emit_output keeps active]
  | succ n ih =>
    obtain ⟨resort, outer, inside⟩ := List.exists_cons_of_length_eq_add_one size
    have left : r.closeBlock.resorts.length = n := by
      rw [inside] at size
      simpa [closeBlock, inside] using size
    have closed := ih h.closeBlock ended left
    rw [closeBlock_output] at closed
    rw [← closed, ← read_endif ended inside]
    rfl

/-- Behind more ends than there are blocks nothing is read. -/
theorem output_probe_of_lt {n : Nat} (more : r.resorts.length < n) :
    ((probe n).foldl (read edit) r).machine.output = r.machine.output := by
  induction n generalizing r with
  | zero => exact absurd more (Nat.not_lt_zero _)
  | succ n ih =>
    change ((probe n).foldl (read edit) (r.read edit Keyword.endif.spelling)).machine.output = _
    cases ended : r.ended with
    | true => rw [read, if_pos ended, foldl_read_of_ended edit ended]
    | false =>
      cases inside : r.resorts with
      | nil => rw [read_endif_outside ended inside, foldl_read_of_ended edit rfl]
      | cons resort outer =>
        have left : r.closeBlock.resorts.length < n := by
          rw [inside] at more
          simpa [closeBlock, inside] using more
        rw [read_endif ended inside, ih left, closeBlock_output]

end Closing

section Comment
variable {comment : Text}

/-- Inside a branch with a guard, a continuation that is not spelled as one is passed over. -/
def PassesOver (r : Reading τ) (line : Text) : Prop :=
  r.resorts.head? = some false ∧
    (Keyword.first? line = some .otherwise ∨ Keyword.first? line = some .elseIf)

theorem read_of_passesOver (head : comment.head? ≠ some '#') (h : r.PassesOver comment) :
    r.read edit comment = r := by
  obtain ⟨guarded, word⟩ := h
  have none := Continuation.ofLine_of_head head
  cases inside : r.resorts with
  | nil =>
    rw [inside] at guarded
    cases guarded
  | cons resort outer =>
    rw [inside] at guarded
    cases guarded
    rcases word with word | word <;> simp [read, word, inside, continueBlock, none]

/-- What a line with a keyword does if it does not start with one: it opens or closes a block,
ends the reading, or is passed over. -/
theorem read_of_head (edit : LineEdit τ) {k : Keyword} (head : comment.head? ≠ some '#')
    (ended : r.ended = false) (word : Keyword.first? comment = some k) :
    (∃ guard, r.read edit comment = r.openBlock guard) ∨
      (r.resorts ≠ [] ∧ r.read edit comment = r.closeBlock) ∨
      (r.resorts = [] ∧ r.read edit comment = { r with ended := true }) ∨
      r.PassesOver comment := by
  have none := Continuation.ofLine_of_head head
  simp only [read, ended, word, PassesOver, Bool.false_eq_true, if_false]
  cases k with
  | ifdef | ifndef | opening => exact .inl ⟨_, rfl⟩
  | endif =>
    cases r.resorts with
    | nil => exact .inr (.inr (.inl ⟨rfl, rfl⟩))
    | cons resort outer => exact .inr (.inl ⟨by simp, rfl⟩)
  | otherwise | elseIf =>
    cases inside : r.resorts with
    | nil => exact .inr (.inr (.inl ⟨rfl, rfl⟩))
    | cons resort outer =>
      cases resort with
      | true => exact .inr (.inl ⟨by simp, by simp [continueBlock]⟩)
      | false => exact .inr (.inr (.inr ⟨rfl, by simp⟩))

/-- The second machine has put out something more behind what both had put out at first. -/
def Longer (first more : Text) (m m' : Machine τ) : Prop :=
  m.state.symbols = m'.state.symbols ∧
    ∃ last, m.output = first ++ last ∧ m'.output = first ++ more ++ last

theorem joint_longer (keeps : ∀ symbols line state, (edit symbols line state).1 = line)
    (first more line : Text) : Joint (Longer (τ := τ) first more) edit edit line where
  guards := by
    rintro m m' ⟨same, -⟩ guard -
    rw [same]
  puts := by
    rintro m m' free ⟨same, last, output, output'⟩ active active'
    refine ⟨?_, last ++ (line ++ lineEnd), ?_, ?_⟩
    · rw [emit_symbols free active, emit_symbols free active', same]
    · rw [emit_output keeps active, output, List.append_assoc]
    · rw [emit_output keeps active', output', List.append_assoc]

/-- A place at which a comment changes nothing: nothing is read there, or the comment has no
keyword, or it is passed over where lines are inactive. -/
def Spares (r : Reading τ) (comment : Text) : Prop :=
  r.ended = true ∨ Keyword.first? comment = none ∨
    (r.machine.active = false ∧ r.PassesOver comment)

instance (r : Reading τ) (comment : Text) : Decidable (r.Spares comment) :=
  inferInstanceAs (Decidable (r.ended = true ∨ Keyword.first? comment = none ∨
    (r.machine.active = false ∧ r.resorts.head? = some false ∧
      (Keyword.first? comment = some .otherwise ∨ Keyword.first? comment = some .elseIf))))

/-- What a line adds where it stands: itself, if it is read and active. -/
def shown (r : Reading τ) (line : Text) : Text :=
  if r.machine.active && !r.ended then line ++ lineEnd else []

theorem shown_ne {k : Keyword} {line : Text} (word : Keyword.first? line = some k) :
    r.shown line ≠ ['x'] ++ lineEnd := by
  intro same
  unfold shown at same
  split at same
  · rw [List.append_cancel_right same] at word
    exact absurd word (by cases k <;> decide)
  · cases same

theorem Spares.alike (keeps : ∀ symbols line state, (edit symbols line state).1 = line)
    (head : comment.head? ≠ some '#') (h : r.Spares comment) :
    Alike (Longer r.machine.output (r.shown comment)) r (r.read edit comment) := by
  have unchanged (hidden : r.shown comment = []) :
      Alike (Longer r.machine.output (r.shown comment)) r r :=
    ⟨rfl, rfl, rfl, rfl, rfl, [], (List.append_nil _).symm, by rw [hidden]; simp⟩
  rcases h with ended | free | ⟨inactive, passed⟩
  · rw [read, if_pos ended]
    exact unchanged (by simp [shown, ended])
  · cases ended : r.ended with
    | true =>
      rw [read, if_pos ended]
      exact unchanged (by simp [shown, ended])
    | false =>
      rw [read_of_free free ended]
      cases active : r.machine.active with
      | false =>
        have same : r.machine.emit edit comment = r.machine := by simp [Machine.emit, active]
        rw [same]
        exact unchanged (by simp [shown, active])
      | true =>
        have unnamed : defined? comment = none := by
          refine if_neg fun both => ?_
          obtain ⟨rest, rfl⟩ := Text.begins_iff.mp both.2
          exact head rfl
        refine ⟨by simp [Machine.emit, active], by simp [Machine.emit, active], rfl, rfl, ?_, [],
          (List.append_nil _).symm, ?_⟩
        · rw [emit_symbols free active, unnamed, Option.elim_none]
        · rw [emit_output keeps active]
          simp [shown, active, ended]
  · rw [read_of_passesOver head passed]
    exact unchanged (by simp [shown, inactive])

/-- A reading that a probe draws nothing from has lost code, whatever it has put out more. -/
theorem ne_of_silent (keeps : ∀ symbols line state, (edit symbols line state).1 = line)
    (sound : r.Sound) (ended : r.ended = false) {r' : Reading τ} {more rest : Text}
    (plain : ((probe r.resorts.length).foldl (read edit) r).machine.output =
      r.machine.output ++ rest)
    (silent : ((probe r.resorts.length).foldl (read edit) r').machine.output =
      r.machine.output) :
    ((probe r.resorts.length).foldl (read edit) r').machine.output ≠
      r.machine.output ++ more ++ rest := by
  intro same
  obtain rfl := List.append_cancel_left ((output_probe keeps sound ended).symm.trans plain)
  have sizes := congrArg List.length (silent.symm.trans same)
  simp [lineEnd] at sizes

/-- Where a comment is not spared, some lines behind it bring out what it has changed. -/
theorem exists_after_of_not_spares
    (keeps : ∀ symbols line state, (edit symbols line state).1 = line)
    (head : comment.head? ≠ some '#') (sound : r.Sound) (h : ¬ r.Spares comment) :
    ∃ after : List Text, (∀ line ∈ after, Line.Stable line) ∧
      ∀ rest, (after.foldl (read edit) r).machine.output = r.machine.output ++ rest →
        (after.foldl (read edit) (r.read edit comment)).machine.output ≠
          r.machine.output ++ r.shown comment ++ rest := by
  simp only [Spares, not_or, not_and] at h
  obtain ⟨going, word, exposed⟩ := h
  have ended : r.ended = false := Bool.eq_false_iff.mpr going
  obtain ⟨k, word⟩ := Option.ne_none_iff_exists'.mp word
  rcases read_of_head edit head ended word with
    ⟨guard, opened⟩ | ⟨inside, closed⟩ | ⟨outside, stopped⟩ | passed
  · refine ⟨probe (r.resorts.length + 1), stable_of_mem_probe _, fun rest plain same => ?_⟩
    rw [output_probe_of_lt (Nat.lt_succ_self _)] at plain
    obtain rfl : rest = [] := List.self_eq_append_right.mp plain
    rw [opened] at same
    have put := output_probe keeps (sound.openBlock guard) ended
    have code := List.append_cancel_left (put.symm.trans (same.trans (List.append_assoc ..)))
    rw [List.append_nil] at code
    exact shown_ne word code.symm
  · refine ⟨probe r.resorts.length, stable_of_mem_probe _, fun _ plain =>
      ne_of_silent keeps sound ended plain ?_⟩
    have fewer : r.closeBlock.resorts.length < r.resorts.length := by
      rw [closeBlock, List.length_tail]
      have some := List.length_pos_iff.mpr inside
      omega
    rw [closed, output_probe_of_lt fewer, closeBlock_output]
  · refine ⟨probe r.resorts.length, stable_of_mem_probe _, fun _ plain =>
      ne_of_silent keeps sound ended plain ?_⟩
    rw [stopped, foldl_read_of_ended edit rfl]
  · refine ⟨[], List.forall_mem_nil _, fun rest plain same => ?_⟩
    have active : r.machine.active = true := by
      rw [← Bool.not_eq_false]
      exact fun inactive => exposed inactive passed
    rw [read_of_passesOver head passed, shown, if_pos (by simp [active, ended])] at same
    have sizes := congrArg List.length same
    simp [lineEnd] at sizes

end Comment
end Reading
end Tree

namespace Options
variable {σ : Type} {o : Options σ} {symbols : Symbols} {s : Session σ} {before : List Text}
  {comment : Text}

/-- A line changes nothing behind `before`: whatever follows it, the same branches are taken and the
same lines put out, besides the line itself if the place is active. -/
def Inert (o : Options σ) (symbols : Symbols) (s : Session σ) (before : List Text)
    (line : Text) : Prop :=
  let here := o.reads before symbols s
  ∀ after source source', Line.split source = before ++ after →
    Line.split source' = before ++ line :: after →
    let first := (o.reads (Line.split source) symbols s).machine
    let second := (o.reads (Line.split source') symbols s).machine
    first.frames = second.frames ∧ first.active = second.active ∧
      ∃ rest symbols',
        (o.evaluate source symbols s).value.1 = (here.machine.output ++ rest, symbols') ∧
        (o.evaluate source' symbols s).value.1 =
          (here.machine.output ++ here.shown line ++ rest, symbols')

/-- A comment line changes nothing exactly where the reading of conditionals spares it: behind the
end of the reading, if it has no keyword, or if it is passed over among inactive lines. -/
theorem evaluate_comment_iff (hookless : Target.Hookless o.target)
    (isComment : Line.IsComment comment) (single : '\n' ∉ comment)
    (inSource : ∃ source, before <+: Line.split source) :
    o.Inert symbols s before comment ↔ (o.reads before symbols s).Spares comment := by
  have keeps (symbols : Symbols) (line : Text) (state : LineState σ) :
      (Target.lineEdit o.target o.isFragment symbols line state).1 = line :=
    Target.lineEdit_hookless o.isFragment symbols line state hookless
  have head := isComment.head_ne
  constructor
  · intro inert
    refine Classical.byContradiction fun exposed => ?_
    obtain ⟨after, stable, parts⟩ := Tree.Reading.exists_after_of_not_spares keeps head
      (Tree.Reading.sound_run ..) exposed
    obtain ⟨source, within⟩ := inSource
    have known (line : Text) (mem : line ∈ before) : Line.Stable line :=
      Line.stable_of_mem_split (within.subset mem)
    have plain : ∀ line ∈ before ++ after, Line.Stable line := by
      simpa only [List.forall_mem_append] using ⟨known, stable⟩
    have commented : ∀ line ∈ before ++ comment :: after, Line.Stable line := by
      simpa only [List.forall_mem_append, List.forall_mem_cons] using
        ⟨known, isComment.stable single, stable⟩
    obtain ⟨-, -, rest, symbols', evaluated, evaluated'⟩ := inert after _ _
      (Line.split_flatMap plain) (Line.split_flatMap commented)
    rw [value_evaluate_reads, Line.split_flatMap plain, reads, Tree.Reading.run_append] at evaluated
    rw [value_evaluate_reads, Line.split_flatMap commented, reads,
      Tree.Reading.run_append] at evaluated'
    exact parts rest (congrArg Prod.fst evaluated) (congrArg Prod.fst evaluated')
  · intro spares after source source' lines lines'
    have alike : Tree.Reading.Alike _ (after.foldl _ _) (after.foldl _ _) :=
      (spares.alike keeps head).foldl (fun _ _ kept => kept) fun line _ =>
        Tree.Reading.joint_longer keeps _ _ line
    rw [value_evaluate_reads, value_evaluate_reads, lines, lines']
    simp only [reads, Tree.Reading.run_append, List.foldl_cons]
    obtain ⟨same, last, output, output'⟩ := alike.related
    exact ⟨alike.frames, alike.active, last, _, Prod.ext output same, Prod.ext output' rfl⟩

/-- In a branch that is not taken, a comment that has an else in it changes nothing, and one that
has an end in it closes the block. -/
theorem evaluate_comment_iff_inactive :
    let o : Options Unit := {}
    let s : Session Unit := { lines := { target := () } }
    let before := ["#ifdef X".toList, "a".toList]
    o.Inert ∅ s before "// #else".toList ∧ ¬ o.Inert ∅ s before "\t// #endif".toList := by
  intro o s before
  have inSource : ∃ source, before <+: Line.split source :=
    ⟨"#ifdef X\na".toList, by decide⟩
  constructor
  · exact (evaluate_comment_iff .none (by decide) (by decide) inSource).mpr (by decide +kernel)
  · exact fun inert => absurd
      ((evaluate_comment_iff .none (by decide) (by decide) inSource).mp inert) (by decide +kernel)

/-- A commented end brings out a line of a branch that is not taken, and one outside all blocks
swallows what stands behind it. -/
theorem evaluate_comment_ne :
    let o : Options Unit := {}
    let s : Session Unit := { lines := { target := () } }
    let out (source : String) := (o.evaluate source.toList ∅ s).value.1.1
    Line.IsComment "// #endif".toList ∧
      Line.split "#ifdef X\na\nb\n#endif".toList =
        ["#ifdef X", "a", "b", "#endif"].map String.toList ∧
      Line.split "#ifdef X\na\n// #endif\nb\n#endif".toList =
        ["#ifdef X", "a", "// #endif", "b", "#endif"].map String.toList ∧
      out "#ifdef X\na\nb\n#endif" = [] ∧
      out "#ifdef X\na\n// #endif\nb\n#endif" = "b\r\n".toList ∧
      out "a\nb" = "a\r\nb\r\n".toList ∧ out "a\n// #endif\nb" = "a\r\n".toList := by
  decide +kernel

end Options
end ShaderPrep
