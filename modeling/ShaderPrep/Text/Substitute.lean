import ShaderPrep.Text.Basic

/-!
One left-to-right pass over a text. A rule looks at the text from one position on and answers
with a replacement and how many characters it stands for; what a replacement inserts is not
looked at again.
-/
namespace ShaderPrep.Text

/-- The replacement for what a text starts with, and the number of characters it covers. -/
abbrev Rule := Text → Option (Text × Nat)

/-- The pass, with `skip` characters still covered by the last replacement. -/
def substituteFrom (rule : Rule) : Nat → Text → Text
  | _, [] => []
  | skip + 1, _ :: s => substituteFrom rule skip s
  | 0, c :: s =>
    match rule (c :: s) with
    | some (new, width) => new ++ substituteFrom rule (width - 1) s
    | none => c :: substituteFrom rule 0 s

def substitute (rule : Rule) (s : Text) : Text := substituteFrom rule 0 s

/-- Replaces one word, which is not empty. -/
def wordRule (word new : Text) : Rule :=
  fun s => (after? word s).map fun _ => (new, word.length)

/-- Every occurrence of `word` replaced, from the left and without overlap. -/
def replaceAll (word new : Text) : Text → Text := substitute (wordRule word new)

/-- The value of each placeholder, which is a letter in braces. -/
abbrev Values := List (Char × Text)

/-- A placeholder without a value stands for itself. -/
def placeholderRule (values : Values) : Rule
  | '\x7b' :: c :: '\x7d' :: _ => (values.lookup c).map fun value => (value, 3)
  | _ => none

/-- The template with the values in the place of their placeholders. -/
def fill (template : Text) (values : Values) : Text := substitute (placeholderRule values) template

theorem substituteFrom_eq_drop (rule : Rule) (n : Nat) (s : Text) :
    substituteFrom rule n s = substitute rule (s.drop n) := by
  induction s generalizing n with
  | nil => cases n <;> simp [substituteFrom, substitute]
  | cons c s ih =>
    cases n with
    | zero => rfl
    | succ n => simpa [substituteFrom] using ih n

@[simp] theorem substitute_nil (rule : Rule) : substitute rule [] = [] := rfl

theorem substitute_cons_of_none {rule : Rule} {c : Char} {s : Text} (h : rule (c :: s) = none) :
    substitute rule (c :: s) = c :: substitute rule s := by
  simp [substitute, substituteFrom, h]

theorem substitute_cons_of_some {rule : Rule} {c : Char} {s new : Text} {width : Nat}
    (h : rule (c :: s) = some (new, width)) :
    substitute rule (c :: s) = new ++ substitute rule (s.drop (width - 1)) := by
  rw [substitute, substituteFrom, h]
  exact congrArg (new ++ ·) (substituteFrom_eq_drop rule _ s)

/-- A rule that never fires changes nothing. -/
theorem substitute_eq_self {rule : Rule} {s : Text} (h : ∀ t, t <:+ s → t ≠ [] → rule t = none) :
    substitute rule s = s := by
  induction s with
  | nil => rfl
  | cons c s ih =>
    rw [substitute_cons_of_none (h _ (List.suffix_refl _) (by simp)),
      ih fun t ht => h t (ht.trans (List.suffix_cons c s))]

end ShaderPrep.Text
