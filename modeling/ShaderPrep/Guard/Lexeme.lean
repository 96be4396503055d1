import ShaderPrep.Text.Basic

/-!
Lexemes of a condition. Only junctions and parentheses matter for its structure; a run of any
other characters is one lexeme, and a lone `&` or `|` is text as well. No character is lost.
-/
namespace ShaderPrep.Guard

inductive Lexeme where
  | and
  | or
  | opening
  | closing
  | text (run : Text)
  | ampersand
  | bar
  deriving DecidableEq, Repr

namespace Lexeme

def spelling : Lexeme → Text
  | and => "&&".toList
  | or => "||".toList
  | opening => ['(']
  | closing => [')']
  | text run => run
  | ampersand => ['&']
  | bar => ['|']

/-- One more character in front: it joins a run that follows it. -/
def consText (c : Char) : List Lexeme → List Lexeme
  | text run :: rest => text (c :: run) :: rest
  | rest => text [c] :: rest

def scan : Text → List Lexeme
  | [] => []
  | '&' :: '&' :: s => and :: scan s
  | '|' :: '|' :: s => or :: scan s
  | '&' :: s => ampersand :: scan s
  | '|' :: s => bar :: scan s
  | '(' :: s => opening :: scan s
  | ')' :: s => closing :: scan s
  | c :: s => consText c (scan s)

theorem spelling_consText (c : Char) (lexemes : List Lexeme) :
    (consText c lexemes).flatMap spelling = c :: lexemes.flatMap spelling := by
  unfold consText
  split <;> simp [spelling]

/-- The lexemes spell the text they were scanned from. -/
theorem spelling_scan (s : Text) : (scan s).flatMap spelling = s := by
  fun_induction scan s with
  | case1 => rfl
  | case8 c s _ _ _ _ _ _ ih => rw [spelling_consText, ih]
  | _ => simp_all [spelling]

/-- Whether the lexeme takes part in the structure of the condition. -/
def isStructural : Lexeme → Bool
  | and | or | opening | closing => true
  | text _ | ampersand | bar => false

end Lexeme
end ShaderPrep.Guard
