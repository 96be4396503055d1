import ShaderPrep.Guard.Basic

/-! The grammar of conditions, and what its formulas mean. Spaces and tabs may stand between any
two tokens. How a call of `defined` is written is a parameter, because conditions are rewritten
to another kind of brackets before they are parsed. -/
namespace ShaderPrep

/-- How two sides that may be no numbers relate. -/
def Comparison.Relates (comparison : Comparison) : Option Int → Option Int → Prop
  | some left, some right =>
    match comparison with
    | equal => left = right
    | notEqual => left ≠ right
    | greaterOrEqual => left ≥ right
    | lessOrEqual => left ≤ right
    | less => left < right
    | greater => left > right
  | _, _ => comparison = notEqual

theorem Comparison.holds_iff (comparison : Comparison) (left right : Option Int) :
    comparison.holds left right = true ↔ comparison.Relates left right := by
  cases left with
  | none => simp [holds, Relates]
  | some left =>
    cases right with
    | none => simp [holds, Relates]
    | some right => cases comparison <;> simp [holds, Relates]

namespace Guard

def Blanks (s : Text) : Prop := ∀ c ∈ s, c = ' ' ∨ c = '\t'

def isNameChar (c : Char) : Bool := c.isAlphanum || c = '_'

/-- A word of letters, digits and underscores, as identifiers are. -/
def IsName (s : Text) : Prop := s ≠ [] ∧ ∀ c ∈ s, isNameChar c = true

/-- A decimal number, perhaps behind a minus sign. -/
def IsLiteral (s : Text) : Prop :=
  ∃ digits, (s = digits ∨ s = '-' :: digits) ∧ digits ≠ [] ∧ ∀ c ∈ digits, c.isDigit = true

/-- What a condition says. -/
inductive Formula where
  | defined (name : Text)
  | undefined (name : Text)
  | present (name : Text)
  | compare (name : Text) (comparison : Comparison) (literal : Text)
  | and (left right : Formula)
  | or (left right : Formula)

namespace Formula

/-- A name that is no symbol is compared by its own text. -/
def Holds (symbols : Symbols) : Formula → Prop
  | defined name => name ∈ symbols.keys
  | undefined name => name ∉ symbols.keys
  | present name => name ∈ symbols.keys
  | compare name comparison literal =>
    comparison.Relates (Numeral.read? ((symbols.get? name).getD name)) (Numeral.read? literal)
  | and left right => left.Holds symbols ∧ right.Holds symbols
  | or left right => left.Holds symbols ∨ right.Holds symbols

/-- The guard that tests the formula. -/
def guard : Formula → Guard
  | defined name => .defined name false
  | undefined name => .defined name true
  | present name => .defined name false
  | compare name comparison literal => .compare name comparison literal
  | and left right => .and left.guard right.guard
  | or left right => .or left.guard right.guard

theorem guard_holds_iff (symbols : Symbols) (f : Formula) :
    f.guard.holds symbols = true ↔ f.Holds symbols := by
  induction f with
  | defined name => simp [guard, Guard.holds, Holds, Table.mem_keys_iff]
  | undefined name => simp [guard, Guard.holds, Holds, Table.mem_keys_iff]
  | present name => simp [guard, Guard.holds, Holds, Table.mem_keys_iff]
  | compare name comparison literal => exact Comparison.holds_iff ..
  | and left right ihl ihr => simp [guard, Guard.holds, Holds, ihl, ihr]
  | or left right ihl ihr => simp [guard, Guard.holds, Holds, ihl, ihr]

instance (symbols : Symbols) (f : Formula) : Decidable (f.Holds symbols) :=
  decidable_of_iff _ (guard_holds_iff symbols f)

end Formula

/-- The rules of the grammar, from the loosest to the tightest. -/
inductive Level where
  | condition
  | term
  | factor

/-- Texts that the grammar derives at a level, with the formulas they stand for. The parameter
says which texts are calls of `defined` on a name. -/
inductive Spells (call : Text → Text → Prop) : Level → Text → Formula → Prop
  | defined : call s name → Spells call .factor s (.defined name)
  | undefined : call s name → Blanks a → Spells call .factor ('!' :: (a ++ s)) (.undefined name)
  | present : IsName name → Spells call .factor name (.present name)
  | compare : IsName name → IsLiteral literal → Blanks a → Blanks b →
      Spells call .factor (name ++ (a ++ (comparison.sign ++ (b ++ literal))))
        (.compare name comparison literal)
  | group : Spells call .condition s f → Blanks a → Blanks b →
      Spells call .factor ('(' :: (a ++ (s ++ (b ++ [')'])))) f
  | factor : Spells call .factor s f → Spells call .term s f
  | and : Spells call .term s f → Spells call .factor t g → Blanks a → Blanks b →
      Spells call .term (s ++ (a ++ ('&' :: '&' :: (b ++ t)))) (.and f g)
  | term : Spells call .term s f → Spells call .condition s f
  | or : Spells call .condition s f → Spells call .term t g → Blanks a → Blanks b →
      Spells call .condition (s ++ (a ++ ('|' :: '|' :: (b ++ t)))) (.or f g)

/-- A call with any blanks between its tokens. -/
inductive SpacedCall : Text → Text → Prop
  | mk : IsName name → Blanks a → Blanks b → Blanks c →
      SpacedCall ("defined".toList ++ (a ++ ('(' :: (b ++ (name ++ (c ++ [')'])))))) name

/-- A condition text of the grammar and the formula it stands for. -/
abbrev Denotes (s : Text) (f : Formula) : Prop := Spells SpacedCall .condition s f

end Guard
end ShaderPrep
