import ShaderPrep.CommandLine.Run
import ShaderPrep.Proofs.Guard.Printing

/-! Guards over words of any script. A word has no blank and no mark of a condition, so that a
guard that asks for words is read back from what is written out for it. -/
namespace ShaderPrep.Guard

/-- Symbols are words, and what they are compared with are decimal numbers. -/
def OverWords : Guard → Prop
  | defined symbol _ => IsWord symbol
  | compare symbol _ value => IsWord symbol ∧ IsLiteral value
  | and left right => left.OverWords ∧ right.OverWords
  | or left right => left.OverWords ∧ right.OverWords

theorem OverWords.legible {g : Guard} (h : g.OverWords) : g.Legible := by
  induction g with
  | defined symbol negated => exact IsWord.argument_self h
  | compare symbol comparison value => exact ⟨h.1.side, h.2.side⟩
  | and left right ihl ihr => exact ⟨ihl h.1, ihr h.2⟩
  | or left right ihl ihr => exact ⟨ihl h.1, ihr h.2⟩

/-- An evaluation prints the guard that it has read, an arrow, and the truth of that guard. -/
theorem value_evalText (condition : Text) (defines : List Text) :
    (CommandLine.evalText condition defines).value =
      (parse condition).toText ++ " => ".toList ++
        (if (parse condition).holds (Symbols.ofEntries defines) then "true".toList
          else "false".toList) ++ ['\n'] := by
  have value : (read condition).value = parse condition := rfl
  rw [CommandLine.evalText, Traced.value_bind, value, Traced.value_pure]
  split <;> rfl

/-- What is written out for a guard over words is read as that very guard, with nothing to warn
of. An evaluation of any condition for the guard prints what is written out for it with the truth of
the guard; so what it prints denotes what it has evaluated, and evaluating that prints it again. -/
theorem read_toText {g : Guard} (h : g.OverWords) :
    read g.toText = pure g ∧ ∀ condition defines, parse condition = g →
      let truth := if g.holds (Symbols.ofEntries defines) then "true".toList else "false".toList
      (CommandLine.evalText condition defines).value =
          g.toText ++ " => ".toList ++ truth ++ ['\n'] ∧
        (CommandLine.evalText g.toText defines).value =
          (CommandLine.evalText condition defines).value := by
  obtain ⟨s', factor⟩ := h.legible.factor
  refine ⟨factor.read_eq, fun condition defines same => ⟨?_, ?_⟩⟩
  · rw [value_evalText, same]
  · rw [value_evalText, value_evalText, factor.parse_eq, same]

/-- Both junctions nested on either side, a negated call, a word that is no ASCII, and a negative
number; and a condition with fewer parentheses and blanks that is the same guard. -/
theorem read_toText_nested :
    let g : Guard := .or
      (.and (.defined "A".toList true) (.or (.compare "Größe".toList .lessOrEqual "-12".toList)
        (.defined "defined".toList false)))
      (.and (.defined "B_2".toList false) (.compare "7".toList .notEqual "0".toList))
    let written := ("((!defined(A) && (Größe <= -12 || defined(defined))) || " ++
      "(defined(B_2) && 7 != 0))").toList
    let condition := "!defined(A)&&(Größe<=-12||defined( defined ))|| B_2 &&7 != 0".toList
    g.OverWords ∧ g.toText = written ∧ read written = pure g ∧ parse condition = g ∧
      (CommandLine.evalText condition ["B_2".toList]).value = written ++ " => true\n".toList ∧
      ∀ defines, (CommandLine.evalText written defines).value =
        (CommandLine.evalText condition defines).value := by
  intro g written condition
  have literal : IsLiteral "-12".toList ∧ IsLiteral "0".toList :=
    ⟨⟨"12".toList, .inr rfl, by decide, List.all_eq_true.mp (by decide)⟩,
      ⟨"0".toList, .inl rfl, by decide, List.all_eq_true.mp (by decide)⟩⟩
  have words : g.OverWords :=
    ⟨⟨show IsWord _ by decide, ⟨by decide, literal.1⟩, show IsWord _ by decide⟩,
      show IsWord _ by decide, by decide, literal.2⟩
  have same : g.toText = written := by decide
  have parsed : parse condition = g := by decide +kernel
  obtain ⟨reads, evaluates⟩ := read_toText words
  rw [same] at reads evaluates
  have holds : g.holds (Symbols.ofEntries ["B_2".toList]) = true := by decide +kernel
  have printed := (evaluates condition ["B_2".toList] parsed).1
  rw [if_pos holds] at printed
  exact ⟨words, same, reads, parsed, printed,
    fun defines => (evaluates condition defines parsed).2⟩

end ShaderPrep.Guard
