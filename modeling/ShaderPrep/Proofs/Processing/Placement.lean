import ShaderPrep.Proofs.Define.Spelling
import ShaderPrep.Proofs.Guard.Symbols
import ShaderPrep.Proofs.Processing.Listing
import ShaderPrep.Proofs.Target.Hookless

/-! A define line as a line of a source, and as an entry of the list of defines instead. Guards
behind the line tell the two apart by the name and the number that either reads; where these are
the same, both runs take the same branches and put out the same lines, but for the define. -/
namespace ShaderPrep

namespace Tree
variable {τ : Type} {edit : LineEdit τ} {name value line define : Text} {first : List Text}
  {lines : List Text} {r : Reading τ}

/-- Some guard of the line asks for the symbol. -/
def Asks (line name : Text) : Prop := ∃ guard ∈ asked line, name ∈ guard.symbols

/-- The line defines the symbol where it is put out. -/
def Defines (line name : Text) : Prop := (defined? line).map (·.name) = some name

instance (line name : Text) : Decidable (Asks line name) :=
  inferInstanceAs (Decidable (∃ guard ∈ asked line, name ∈ guard.symbols))

instance (line name : Text) : Decidable (Defines line name) :=
  inferInstanceAs (Decidable ((defined? line).map (·.name) = some name))

namespace Reading

theorem get?_emit {m : Machine τ} (free : Keyword.first? line = none) (active : m.active = true)
    (undefined : ¬Defines line name) :
    (m.emit edit line).state.symbols.get? name = m.state.symbols.get? name := by
  rw [emit_symbols free active]
  simp only [Defines] at undefined
  cases defines : defined? line with
  | none => rfl
  | some d =>
    rw [defines] at undefined
    rw [Option.elim_some, Table.get?_insert, if_neg fun own => undefined (congrArg some own.symm)]

/-- Lines that do not define a symbol leave it as it is. -/
theorem get?_foldl_read (undefined : ∀ line ∈ lines, ¬Defines line name) :
    (lines.foldl (read edit) r).machine.state.symbols.get? name =
      r.machine.state.symbols.get? name := by
  apply foldl_invariant (P := fun m => m.state.symbols.get? name =
    r.machine.state.symbols.get? name) (fun _ _ kept => kept) _ rfl
  intro line mem m free active kept
  exact (get?_emit free active (undefined line mem)).trans kept

/-- Machines ahead of the define: the second knows the symbol from the list. -/
def Ahead (name value : Text) (m m' : Machine τ) : Prop :=
  Symbols.SameBut name m.state.symbols m'.state.symbols ∧
    m'.state.symbols.get? name = some value ∧ m.edited = m'.edited

/-- Machines behind the define: no guard tells their symbols apart, and they have put out the same
lines, the first one the define as well. -/
def Behind (first : List Text) (define : Text) (m m' : Machine τ) : Prop :=
  (∀ k, Symbols.AgreeAt m.state.symbols m'.state.symbols k) ∧
    ∃ last, m.edited = first ++ define :: last ∧ m'.edited = first ++ last

theorem joint_ahead (unasked : ¬Asks line name) (undefined : ¬Defines line name) :
    Joint (Ahead (τ := τ) name value) edit edit line where
  guards := by
    rintro m m' ⟨same, -, -⟩ guard mem
    refine Guard.holds_congr fun k asks => .of_get? (same k ?_)
    rintro rfl
    exact unasked ⟨guard, mem, asks⟩
  puts := by
    rintro m m' free ⟨same, known, edited⟩ active active'
    refine ⟨?_, (get?_emit free active' undefined).trans known, ?_⟩
    · rw [emit_symbols free active, emit_symbols free active']
      cases defined? line with
      | none => exact same
      | some d => exact same.insert _ _
    · rw [emit_edited line active, emit_edited line active', edited]

theorem joint_behind (line : Text) : Joint (Behind (τ := τ) first define) edit edit line where
  guards := by
    rintro m m' ⟨agree, -⟩ guard -
    exact Guard.holds_congr fun k _ => agree k
  puts := by
    rintro m m' free ⟨agree, last, edited, edited'⟩ active active'
    refine ⟨fun k => ?_, last ++ [line], ?_, ?_⟩
    · rw [emit_symbols free active, emit_symbols free active']
      cases defined? line with
      | none => exact agree k
      | some d => exact (agree k).insert _ _
    · rw [emit_edited line active, edited, List.append_assoc, List.cons_append]
    · rw [emit_edited line active', edited', List.append_assoc]

/-- Over the define, which the second reading does not have. -/
theorem Alike.over_define {r' : Reading τ} {d : LineDefine} (edit : LineEdit τ)
    (h : Alike (Ahead name value) r r') (active : r.machine.active = true)
    (free : Keyword.first? define = none) (defines : defined? define = some d) (own : d.name = name)
    (number : Numeral.read? d.effective = Numeral.read? value) :
    Alike (Behind r.machine.edited define)
      { r with machine := r.machine.emit edit define } r' := by
  obtain ⟨frames, same, resorts, ended, ahead, known, edited⟩ := h
  have kept : (r.machine.emit edit define).frames = r.machine.frames ∧
      (r.machine.emit edit define).active = r.machine.active := by
    simp [Machine.emit, active]
  refine ⟨kept.1.trans frames, kept.2.trans same, resorts, ended, fun k => ?_, [], ?_, ?_⟩
  · rw [emit_symbols free active, defines, Option.elim_some, own]
    by_cases here : k = name
    · rw [here]
      exact (Symbols.agreeAt_iff_of_some (Table.get?_insert_self ..) known).mpr number
    · exact .of_get? (by rw [Table.get?_insert, if_neg here, ahead k here])
  · exact emit_edited define active
  · rw [← edited, List.append_nil]

end Reading
end Tree

namespace Options
variable {σ : Type} {o : Options σ} {engine : Option Engine}

/-- How conditionals read lines under the options. -/
def reading (o : Options σ) (engine : Option Engine) (state : σ) (lines : List Text) :
    Tree.Reading (LineState σ) :=
  Tree.Reading.run (Target.lineEdit o.target o.isFragment) lines
    ⟨o.symbols engine state, { target := state }⟩

theorem reading_append (o : Options σ) (engine : Option Engine) (state : σ)
    (before ahead : List Text) : o.reading engine state (before ++ ahead) =
      ahead.foldl (Tree.Reading.read (Target.lineEdit o.target o.isFragment))
        (o.reading engine state before) :=
  Tree.Reading.run_append ..

theorem value_preprocess_hookless (hookless : Target.Hookless o.target)
    (plain : o.afterIncludes = none) {source code : Text} {s : Session σ} {store : Store}
    (resolved : (Include.resolve o.toSettings engine s.store source).value = (.ok code, store)) :
    (o.preprocess engine source s).value.1 = .ok ⟨inlined engine o.isFragment
      ((o.reading engine s.lines.target (Line.split code)).machine.edited.flatMap
        (· ++ Tree.lineEnd)), code⟩ := by
  have declined : o.askTarget (·.onSource source o.isFragment) = pure none :=
    askTarget_absent fun t mem => (hookless.silent t mem).onSource ..
  rw [preprocess, value_runOn declined plain resolved, value_convert_silent hookless.silent,
    value_evaluate, Tree.render_ofSource_eq_reading]
  exact congrArg (fun text => Except.ok (Processed.mk (inlined engine o.isFragment text) code))
    (Tree.Reading.output_eq_edited (fun symbols line state =>
      Target.lineEdit_hookless o.isFragment symbols line state hookless) _ _)

/-- A define line that is put out behind the lines `before`, and that stands as an entry behind
the entries `earlier` instead; `later` entries, the run and its host do not write the symbol. -/
structure Placed (o : Options σ) (engine : Option Engine) (state : σ) (gap : Nat)
    (name tail : Text) (earlier later before : List Text) : Prop where
  named : Define.IsName name
  shape : Define.Tail tail
  listed : o.defines = earlier ++ later
  unwritten : ∀ entry ∈ later, (Define.ofEntry entry).name ≠ name
  spares : o.Spares engine state name
  free : Tree.Keyword.first? (Define.spelled gap name tail) = none
  active : (o.reading engine state before).machine.active = true
  ended : (o.reading engine state before).ended = false

namespace Placed
variable {state : σ} {gap : Nat} {name tail : Text} {earlier later before : List Text}

/-- The reading over the define. -/
theorem reading_eq (h : o.Placed engine state gap name tail earlier later before)
    (ahead : List Text) :
    o.reading engine state (before ++ Define.spelled gap name tail :: ahead) =
      ahead.foldl (Tree.Reading.read (Target.lineEdit o.target o.isFragment))
        { o.reading engine state before with
          machine := (o.reading engine state before).machine.emit
            (Target.lineEdit o.target o.isFragment) (Define.spelled gap name tail) } := by
  rw [reading_append, List.foldl_cons, Tree.Reading.read_of_free h.free h.ended]

theorem defined?_eq (h : o.Placed engine state gap name tail earlier later before) :
    Tree.defined? (Define.spelled gap name tail) =
      Tree.LineDefine.ofLine? (Define.spelled gap name tail) :=
  if_pos ⟨h.free, Define.begins_spelled gap name tail⟩

/-- The symbols that the run with the entry starts with. -/
theorem symbols_eq (h : o.Placed engine state gap name tail earlier later before) :
    let symbols := (o.withDefines (earlier ++ Define.spelled gap name tail :: later)).symbols
      engine state
    Symbols.SameBut name (o.symbols engine state) symbols ∧
      symbols.get? name = some (Define.ofEntry (Define.spelled gap name tail)).value := by
  have own := (Define.ofEntry_spelled h.named h.shape gap).1
  have entry := symbols_withEntry (Define.spelled gap name tail) (own.symm ▸ h.spares)
    h.listed (own.symm ▸ h.unwritten)
  rwa [own] at entry

/-- Where no other entry or line writes the symbol, guards on it tell line and entry apart by the
name and the number. -/
theorem agreeAt_iff (h : o.Placed engine state gap name tail earlier later before)
    (unlisted : ∀ entry ∈ earlier, (Define.ofEntry entry).name ≠ name) {ahead : List Text}
    (undefined : ∀ line ∈ before ++ ahead, ¬Tree.Defines line name) :
    let define := Define.spelled gap name tail
    Symbols.AgreeAt
        (o.reading engine state (before ++ define :: ahead)).machine.state.symbols
        ((o.withDefines (earlier ++ define :: later)).reading engine state
          (before ++ ahead)).machine.state.symbols name ↔
      gap = 0 ∧ Define.lineNumber tail = Define.entryNumber tail := by
  intro define
  obtain ⟨-, entryNumber⟩ := Define.ofEntry_spelled h.named h.shape gap
  have known : ((o.withDefines (earlier ++ define :: later)).reading engine state
      (before ++ ahead)).machine.state.symbols.get? name = some (Define.ofEntry define).value :=
    (Tree.Reading.get?_foldl_read undefined).trans h.symbols_eq.2
  have there : (o.reading engine state (before ++ define :: ahead)).machine.state.symbols.get?
      name = ((o.reading engine state before).machine.emit
        (Target.lineEdit o.target o.isFragment) define).state.symbols.get? name := by
    rw [h.reading_eq]
    exact Tree.Reading.get?_foldl_read fun line mem => undefined line (List.mem_append_right _ mem)
  rw [Tree.Reading.emit_symbols h.free h.active, h.defined?_eq] at there
  -- With more than one space the line defines nothing at all.
  cases gap with
  | zero =>
    obtain ⟨d, read, own, lineNumber⟩ := Define.ofLine?_spelled h.named h.shape
    have written : (o.reading engine state (before ++ define :: ahead)).machine.state.symbols.get?
        name = some d.effective := by
      rw [there, read, Option.elim_some, own]
      exact Table.get?_insert_self ..
    rw [Symbols.agreeAt_iff_of_some written known, lineNumber, entryNumber]
    exact ⟨fun same => ⟨rfl, same⟩, And.right⟩
  | succ gap =>
    have missing : (o.reading engine state (before ++ define :: ahead)).machine.state.symbols.get?
        name = none := by
      rw [there, Define.ofLine?_spelled_gap h.named gap tail]
      have still : (o.reading engine state before).machine.state.symbols.get? name =
          (o.symbols engine state).get? name :=
        Tree.Reading.get?_foldl_read fun line mem => undefined line (List.mem_append_left _ mem)
      refine still.trans (get?_symbols_of_unlisted h.spares fun entry mem => ?_)
      rw [h.listed, List.mem_append] at mem
      exact mem.elim (unlisted entry) (h.unwritten entry)
    constructor
    · rintro ⟨has, -⟩
      rw [Table.has, Table.has, missing, known] at has
      cases has
    · rintro ⟨positive, -⟩
      cases positive

/-- Where name and number are the same, the lines behind are read in the same branches, and no
guard at all tells line and entry apart. -/
theorem alike_behind (h : o.Placed engine state 0 name tail earlier later before)
    (number : Define.lineNumber tail = Define.entryNumber tail)
    (unmentioned : ∀ line ∈ before, ¬Tree.Asks line name ∧ ¬Tree.Defines line name)
    (ahead : List Text) :
    let define := Define.spelled 0 name tail
    Tree.Reading.Alike
      (Tree.Reading.Behind (o.reading engine state before).machine.edited define)
      (o.reading engine state (before ++ define :: ahead))
      ((o.withDefines (earlier ++ define :: later)).reading engine state (before ++ ahead)) := by
  intro define
  obtain ⟨-, entryNumber⟩ := Define.ofEntry_spelled h.named h.shape 0
  obtain ⟨d, read, own, lineNumber⟩ := Define.ofLine?_spelled h.named h.shape
  -- Up to the define the tables differ in its symbol alone, which nothing there looks at.
  have up_to : Tree.Reading.Alike (Tree.Reading.Ahead name (Define.ofEntry define).value)
      (o.reading engine state before)
      ((o.withDefines (earlier ++ define :: later)).reading engine state before) := by
    apply Tree.Reading.Alike.foldl (fun _ _ related => related)
    · intro line mem
      exact Tree.Reading.joint_ahead (unmentioned line mem).1 (unmentioned line mem).2
    · exact ⟨rfl, rfl, rfl, rfl, h.symbols_eq.1, h.symbols_eq.2, rfl⟩
  have beyond := up_to.over_define (Target.lineEdit o.target o.isFragment) h.active h.free
    (h.defined?_eq.trans read) own (lineNumber.trans (number.trans entryNumber.symm))
  rw [h.reading_eq, reading_append]
  exact beyond.foldl (fun _ _ related => related) fun line _ => Tree.Reading.joint_behind line

end Placed

/-- A define line in a source, against the same text in the list of defines. Guards on its symbol
alone answer alike behind the line just when one space stands in front of the name and the line
reads the number that the list reads. Then all guards do, the branches are the same ones, and so is
what is preprocessed, but for the define. -/
theorem define_placed_iff {σ : Type} {o : Options σ} {engine : Option Engine} {state : σ}
    {gap : Nat} {name tail : Text} {earlier later before : List Text}
    (h : o.Placed engine state gap name tail earlier later before) :
    let define := Define.spelled gap name tail
    let o' := o.withDefines (earlier ++ define :: later)
    let first := (o.reading engine state before).machine.edited
    let same := gap = 0 ∧ Define.lineNumber tail = Define.entryNumber tail
    ((∀ entry ∈ earlier, (Define.ofEntry entry).name ≠ name) → ∀ ahead,
      (∀ line ∈ before ++ ahead, ¬Tree.Defines line name) →
      ((∀ guard : Guard, (∀ k ∈ guard.symbols, k = name) →
        guard.holds (o.reading engine state (before ++ define :: ahead)).machine.state.symbols =
          guard.holds (o'.reading engine state (before ++ ahead)).machine.state.symbols) ↔
        same)) ∧
    (same → (∀ line ∈ before, ¬Tree.Asks line name ∧ ¬Tree.Defines line name) → ∀ ahead,
      Tree.Reading.Alike (Tree.Reading.Behind first define)
        (o.reading engine state (before ++ define :: ahead))
        (o'.reading engine state (before ++ ahead)) ∧
      (Target.Hookless o.target → o.afterIncludes = none →
        ∀ (s s' : Session σ) (source source' code code' : Text) (store store' : Store),
          s.lines.target = state → s'.lines.target = state →
          Line.split code = before ++ define :: ahead → Line.split code' = before ++ ahead →
          (Include.resolve o.toSettings engine s.store source).value = (.ok code, store) →
          (Include.resolve o.toSettings engine s'.store source').value = (.ok code', store') →
          ∃ last,
            (o.preprocess engine source s).value.1 = .ok ⟨inlined engine o.isFragment
              ((first ++ define :: last).flatMap (· ++ Tree.lineEnd)), code⟩ ∧
            (o'.preprocess engine source' s').value.1 = .ok ⟨inlined engine o.isFragment
              ((first ++ last).flatMap (· ++ Tree.lineEnd)), code'⟩)) := by
  intro define o' first same
  refine ⟨fun unlisted ahead undefined => ?_, ?_⟩
  · rw [Guard.holds_eq_iff_agreeAt]
    exact h.agreeAt_iff unlisted undefined
  · rintro ⟨rfl, number⟩ unmentioned ahead
    have alike := h.alike_behind number unmentioned ahead
    refine ⟨alike, ?_⟩
    intro hookless plain s s' source source' code code' store store' start start' lines lines'
      resolved resolved'
    obtain ⟨-, last, edited, edited'⟩ := alike.related
    have resolvedBeside : (Include.resolve o'.toSettings engine s'.store source').value =
        (.ok code', store') := by
      rw [← resolved']
      exact congrArg Traced.value
        (Include.Round.resolve_withDefines o.toSettings o'.defines engine ⟨_, s'.store, source'⟩)
    refine ⟨last, ?_, ?_⟩
    · rw [value_preprocess_hookless hookless plain resolved, start, lines, edited]
    · rw [value_preprocess_hookless (o := o') hookless plain resolvedBeside, start', lines',
        edited']
      rfl

/-- A number behind a semicolon, in a run with a host and another define. -/
theorem define_placed_iff_number :
    let engine : Engine := {
      load := Engine.loadFrom [] "missing".toList
      globals := Engine.fixedGlobals [("HOST".toList, "1".toList)]
      finite := Engine.loadFrom_finite [] "missing".toList }
    let o : Options Unit := { defines := ["FOG 2".toList] }
    let define := Define.spelled 0 "NUM".toList " 4;".toList
    let o' := o.withDefines ["FOG 2".toList, define]
    let s : Session Unit := { lines := { target := () } }
    let source := "x\n#define NUM 4;\n#if NUM > 3\nmany\n#endif".toList
    let source' := "x\n#if NUM > 3\nmany\n#endif".toList
    o.Placed (some engine) () 0 "NUM".toList " 4;".toList ["FOG 2".toList] [] ["x".toList] ∧
      ∃ last,
        (o.preprocess (some engine) source s).value.1 = .ok ⟨inlined (some engine) o.isFragment
          ((["x".toList] ++ define :: last).flatMap (· ++ Tree.lineEnd)), source⟩ ∧
        (o'.preprocess (some engine) source' s).value.1 = .ok ⟨inlined (some engine) o.isFragment
          ((["x".toList] ++ last).flatMap (· ++ Tree.lineEnd)), source'⟩ := by
  intro engine o define o' s source source'
  have placed : o.Placed (some engine) () 0 "NUM".toList " 4;".toList ["FOG 2".toList] []
      ["x".toList] := {
    named := by decide
    shape := .text "4;".toList
    listed := rfl
    unwritten := nofun
    spares := ⟨by decide, by
      rintro e ⟨⟩
      exact Engine.spares_of_fixedGlobals rfl (by decide)⟩
    free := by decide
    active := by decide +kernel
    ended := by decide +kernel }
  have number : Define.lineNumber " 4;".toList = Define.entryNumber " 4;".toList := by decide
  have unmentioned : ∀ line ∈ ["x".toList],
      ¬Tree.Asks line "NUM".toList ∧ ¬Tree.Defines line "NUM".toList := by decide +kernel
  have resolved : (Include.resolve o.toSettings (some engine) s.store source).value =
      (.ok source, s.store) := Include.value_resolveWithin_complete _ rfl
  have resolved' : (Include.resolve o.toSettings (some engine) s.store source').value =
      (.ok source', s.store) := Include.value_resolveWithin_complete _ rfl
  refine ⟨placed, ?_⟩
  exact ((define_placed_iff placed).2 ⟨rfl, number⟩ unmentioned
    ["#if NUM > 3".toList, "many".toList, "#endif".toList]).2 .none rfl s s source source' source
      source' s.store s.store rfl rfl (by decide +kernel) (by decide +kernel) resolved resolved'

/-- Defines with two spaces in front of the name or a comment behind the number, and one of a symbol
that the run writes itself: as lines and as entries they choose different branches. -/
theorem preprocess_placed_ne :
    let s : Session Unit := { lines := { target := () } }
    let code (entries : List Text) (source : Text) : Except Failure Text :=
      (({ defines := entries } : Options Unit).preprocess none source s).value.1.map (·.code)
    code [] "#define  A\n#ifdef A\nyes\n#endif".toList = .ok "#define  A\r\n".toList ∧
      code ["#define  A".toList] "#ifdef A\nyes\n#endif".toList = .ok "yes\r\n".toList ∧
    code [] "#define A 4 // four\n#if A > 3\nyes\n#endif".toList =
        .ok "#define A 4 // four\r\n".toList ∧
      code ["#define A 4 // four".toList] "#if A > 3\nyes\n#endif".toList =
        .ok "yes\r\n".toList ∧
    code [] "#define __VERSION__ 1\n#if __VERSION__ == 1\nyes\n#endif".toList =
        .ok "#define __VERSION__ 1\r\nyes\r\n".toList ∧
      code ["#define __VERSION__ 1".toList] "#if __VERSION__ == 1\nyes\n#endif".toList =
        .ok [] := by
  intro s code
  have code_eq (entries : List Text) (source text : Text)
      (resolved : (Include.pass ({ defines := entries } : Options Unit).toSettings none s.store
        source).value = .complete source)
      (edited : (({ defines := entries } : Options Unit).reading none ()
        (Line.split source)).machine.edited.flatMap (· ++ Tree.lineEnd) = text) :
      code entries source = .ok text := by
    have value : (({ defines := entries } : Options Unit).preprocess none source s).value.1 =
        .ok ⟨text, source⟩ := by
      rw [← edited]
      exact value_preprocess_hookless .none rfl (Include.value_resolveWithin_complete _ resolved)
    exact congrArg (·.map (·.code)) value
  refine ⟨?_, ?_, ?_, ?_, ?_, ?_⟩ <;> exact code_eq _ _ _ rfl (by decide +kernel)

end Options
end ShaderPrep
