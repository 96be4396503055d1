import ShaderPrep.Pattern.Fault

/-!
Blanks and comments, which a verbose pattern may hold nearly anywhere, and runs of characters
between which they may stand.
-/
namespace ShaderPrep.Pattern.Scan

/-- Skips blanks and comments up to the ends of their lines; `comment` says that one is open. -/
def skipFrom (comment : Bool) : Text → Text
  | [] => []
  | c :: s =>
    if comment then skipFrom (c ≠ '\n') s
    else if Unicode.isBlank c then skipFrom false s
    else if c = '#' then skipFrom true s
    else c :: s

/-- The text without the blanks and comments in front of it, which only a verbose one has. -/
def skip (verbose : Bool) (s : Text) : Text := if verbose then skipFrom false s else s

/-- The longest run of wanted characters, in a verbose text with blanks and comments between
them, and the rest behind it. -/
def takeFrom (verbose : Bool) (wanted : Char → Bool) (comment : Bool) : Text → Text × Text
  | [] => ([], [])
  | c :: s =>
    if comment then takeFrom verbose wanted (c ≠ '\n') s
    else if verbose && Unicode.isBlank c then takeFrom verbose wanted false s
    else if verbose && c = '#' then takeFrom verbose wanted true s
    else if wanted c then
      let (run, rest) := takeFrom verbose wanted false s
      (c :: run, rest)
    else ([], c :: s)

def take (verbose : Bool) (wanted : Char → Bool) (s : Text) : Text × Text :=
  takeFrom verbose wanted false s

/-- The character that decides about a dash in a class, `s` being what follows the dash: the first
one that is neither a blank nor the first sign of a comment. -/
def peek (verbose : Bool) (s : Text) : Option Char :=
  if verbose then
    match s.dropWhile Unicode.isBlank with
    | '#' :: rest => ((rest.dropWhile Unicode.isBlank).head?).or s.head?
    | c :: _ => some c
    | [] => s.head?
  else s.head?

end ShaderPrep.Pattern.Scan
