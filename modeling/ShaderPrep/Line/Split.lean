import ShaderPrep.Text.Basic

/-!
Logical lines. Blank lines vanish, code is trimmed and split behind each semicolon, and
directives and comments stay as they are. The last logical line read is the current one.
-/
namespace ShaderPrep.Line

/-- The statements of a line cut at its semicolons: all but the last part end in one again, and
blank parts vanish. -/
def statements : List Text → List Text
  | [] => []
  | [last] => if last.trim = [] then [] else [last.trim]
  | part :: rest =>
    if part.trim = [] then statements rest else (part.trim ++ [';']) :: statements rest

/-- The logical lines of one physical line. -/
def logical (physical : Text) : List Text :=
  let line := physical.dropLastIf '\r'
  let code := line.trim
  if line.head? = some '#' then [line]
  else if code = [] then []
  else if Text.begins "//".toList code then [line]
  else
    match Text.cut? [';'] code with
    | none => [code]
    | some ([], []) => []
    | some (_, []) => [code]
    | some _ => statements (line.splitOn ';')

/-- The logical lines of a source. -/
def split (source : Text) : List Text := (source.splitOn '\n').flatMap logical

/-- A position between logical lines. -/
structure Cursor where
  /-- The line read last, empty before the first. -/
  current : Text := []
  ahead : List Text

namespace Cursor

def ofSource (source : Text) : Cursor := { ahead := split source }

def canRead (cursor : Cursor) : Bool := !cursor.ahead.isEmpty

/-- Reads one line. -/
def advance? : Cursor → Option Cursor
  | ⟨_, []⟩ => none
  | ⟨_, line :: rest⟩ => some ⟨line, rest⟩

end Cursor

example : split "a; b\n  // x; y\n;".toList = ["a;", "b", "  // x; y"].map String.toList := by
  decide

end ShaderPrep.Line
