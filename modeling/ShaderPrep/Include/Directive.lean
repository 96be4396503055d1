import ShaderPrep.Text.Substitute

/-!
Include directives: a name in angles, then replacements in parentheses and a range in brackets,
if any. Each part goes on to its last closing mark on the line. A source is cut into pieces, a
directive with the text before it, and what is left behind the last one.
-/
namespace ShaderPrep.Include

structure Directive where
  /-- The whole directive as it stands in the source. -/
  text : Text
  name : Text
  replacements : Option Text
  range : Option Text
  deriving DecidableEq, Repr

/-- What stands between an opening mark at the start of a line and the last closing one, and what
is left of the line. -/
def enclosed (opening closing : Char) : Text → Option Text × Text
  | [] => (none, [])
  | c :: line =>
    if c = opening then
      match Text.cutLast? [closing] line with
      | some (inner, rest) => (some inner, rest)
      | none => (none, c :: line)
    else (none, c :: line)

/-- One blank that may follow the keyword, and what comes after it. -/
def optionalBlank : Text → Text × Text
  | [] => ([], [])
  | c :: s => if Unicode.isBlank c then ([c], s) else ([], c :: s)

/-- How a part stands in the source. -/
def part (opening closing : Char) : Option Text → Text
  | none => []
  | some inner => opening :: inner ++ [closing]

def keyword : Text := "#include".toList

namespace Directive

/-- The directive a text starts with. -/
def read? (s : Text) : Option Directive := do
  let s ← Text.after? keyword s
  let (blank, s) := optionalBlank s
  let s ← Text.after? ['<'] s
  let (name, rest) ← Text.cutLast? ['>'] (s.takeWhile (· ≠ '\n'))
  if name = [] then none
  let (replacements, rest) := enclosed '(' ')' rest
  let (range, _) := enclosed '[' ']' rest
  return {
    text := keyword ++ blank ++ part '<' '>' (some name) ++ part '(' ')' replacements ++
      part '[' ']' range
    name, replacements, range }

/-- The key of the include in the store. A name marked as a declaration asks for the include of
declarations, for uniform buffers the same one in both stages. -/
def key (d : Directive) (uniformBuffers : Bool) : Text :=
  let mark := "__decl__".toList
  if Text.occurs mark d.name then
    let base := Text.replaceFirst mark [] d.name
    let base :=
      if uniformBuffers then
        Text.replaceFirst "Fragment".toList "Ubo".toList
          (Text.replaceFirst "Vertex".toList "Ubo".toList base)
      else base
    base ++ "Declaration".toList
  else d.name

end Directive

/-- A directive and the text between it and the one before it. -/
structure Piece where
  before : Text
  directive : Directive
  deriving DecidableEq, Repr

/-- Puts a character in front of the pieces. -/
def consChar (c : Char) : List Piece × Text → List Piece × Text
  | (piece :: pieces, tail) => ({ piece with before := c :: piece.before } :: pieces, tail)
  | ([], tail) => ([], c :: tail)

/-- The pieces of a source, with `skip` characters still part of the last directive. -/
def splitFrom : Nat → Text → List Piece × Text
  | _, [] => ([], [])
  | skip + 1, _ :: s => splitFrom skip s
  | 0, c :: s =>
    match Directive.read? (c :: s) with
    | some d =>
      let (pieces, tail) := splitFrom (d.text.length - 1) s
      (⟨[], d⟩ :: pieces, tail)
    | none => consChar c (splitFrom 0 s)

/-- The pieces of a source and the text behind the last directive. -/
def split (source : Text) : List Piece × Text := splitFrom 0 source

/-- The source that pieces are cut from. -/
def unsplit (pieces : List Piece) (tail : Text) : Text :=
  pieces.flatMap (fun piece => piece.before ++ piece.directive.text) ++ tail

/-- Directives with the byte offsets of their start and end; `offset` is that of the first piece. -/
def spans (offset : Nat) : List Piece → List (Directive × Nat × Nat)
  | [] => []
  | piece :: pieces =>
    let start := offset + Text.byteSize piece.before
    let stop := start + Text.byteSize piece.directive.text
    (piece.directive, start, stop) :: spans stop pieces

/-- All directives of a source with the bytes they take. -/
def scan (source : Text) : List (Directive × Nat × Nat) := spans 0 (split source).1

end ShaderPrep.Include
