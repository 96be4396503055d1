import ShaderPrep.Pattern.Term.Basic
import ShaderPrep.Pattern.Term.Scan

/-!
Escapes: what a backslash makes of the characters behind it.
-/
namespace ShaderPrep.Pattern

/-- What an escape stands for. -/
inductive Escape where
  | atom (atom : Atom)
  | mark (mark : Mark)
  deriving DecidableEq, Repr

namespace Escape

def hexDigit? (c : Char) : Option Nat :=
  if '0' ≤ c ∧ c ≤ '9' then some (c.toNat - 48)
  else if 'a' ≤ c ∧ c ≤ 'f' then some (c.toNat - 87)
  else if 'A' ≤ c ∧ c ≤ 'F' then some (c.toNat - 55)
  else none

def isHexDigit (c : Char) : Bool := (hexDigit? c).isSome

/-- The character that hexadecimal digits number. -/
def charOfDigits (digits : Text) : Except Fault Char :=
  match digits.mapM hexDigit? with
  | none => .error .hexadecimal
  | some values =>
    let n := values.foldl (fun n d => min (n * 16 + d) 0x110000) 0
    if h : n.isValidChar then .ok (Char.ofNatAux n h) else .error .hexadecimal

/-- A fixed number of digits; `digits` holds those read so far, latest first. -/
def readDigits (verbose : Bool) : Nat → Text → Text → Except Fault (Char × Text)
  | 0, digits, s => do return (← charOfDigits digits.reverse, s)
  | n + 1, digits, s =>
    match Scan.skip verbose s with
    | [] => .error .escape
    | c :: s =>
      if isHexDigit c then readDigits verbose n (c :: digits) s else .error .hexadecimal

/-- The number of a character behind a letter that asks for `count` digits. It is a byte if the
digits are two and not in braces. -/
def readHex (verbose : Bool) (count : Nat) (s : Text) : Except Fault (Atom × Text) :=
  match Scan.skip verbose s with
  | '{' :: s =>
    match Scan.take verbose isHexDigit s with
    | (_, []) => .error .escape
    | ([], _) => .error .hexadecimal
    | (digits, '}' :: rest) => do return (.char (← charOfDigits digits) false, rest)
    | _ => .error .hexadecimal
  | s => do
    let (c, rest) ← readDigits verbose count [] s
    return (.char c (count = 2), rest)

/-- The name of a property behind `p`: one character, or any in braces. -/
def readProperty (verbose negated : Bool) (s : Text) : Except Fault (Atom × Text) :=
  match Scan.skip verbose s with
  | [] => .error .escape
  | '{' :: s =>
    match Scan.take verbose (· ≠ '}') s with
    | (name, '}' :: rest) => .ok (.property name negated, rest)
    | _ => .error .escape
  | c :: s => if c = '\\' then .error .unknownProperty else .ok (.property [c] negated, s)

/-- The mark of a word's edge. A name in braces picks a side of the word; braces that hold no name
are left for a repetition. -/
def readEdge (verbose : Bool) (s : Text) : Except Fault (Mark × Text) :=
  let isLetter (c : Char) : Bool := c.isAlpha || c = '-'
  match s with
  | '{' :: rest =>
    match Scan.skip verbose rest with
    | [] => .error .escape
    | first :: _ =>
      if !isLetter first then .ok (.wordEdge, s)
      else
        match Scan.take verbose isLetter rest with
        | (name, '}' :: rest) =>
          match String.ofList name with
          | "start" => .ok (.wordStart, rest)
          | "end" => .ok (.wordEnd, rest)
          | "start-half" => .ok (.beforeWord, rest)
          | "end-half" => .ok (.afterWord, rest)
          | _ => .error .escape
        | _ => .error .escape
  | _ => .ok (.wordEdge, s)

def isMeta (c : Char) : Bool := c ∈ "\\.+*?()|[]\x7b\x7d^$#&-~".toList

/-- Whether a backslash in front of the character only takes its meaning away. -/
def isEscapable (c : Char) : Bool :=
  isMeta c || (c.toNat < 128 && !c.isAlphanum && c ≠ '<' && c ≠ '>')

/-- The letters of classes, marks and control characters. -/
def ofLetter? : Char → Option Escape
  | 'd' => some (.atom (.shorthand .digit false))
  | 'D' => some (.atom (.shorthand .digit true))
  | 's' => some (.atom (.shorthand .blank false))
  | 'S' => some (.atom (.shorthand .blank true))
  | 'w' => some (.atom (.shorthand .word false))
  | 'W' => some (.atom (.shorthand .word true))
  | 'a' => some (.atom (.char '\x07' false))
  | 'f' => some (.atom (.char '\x0c' false))
  | 't' => some (.atom (.char '\t' false))
  | 'n' => some (.atom (.char '\n' false))
  | 'r' => some (.atom (.char '\r' false))
  | 'v' => some (.atom (.char '\x0b' false))
  | 'A' => some (.mark .textStart)
  | 'z' => some (.mark .textEnd)
  | 'B' => some (.mark .noWordEdge)
  | '<' => some (.mark .wordStart)
  | '>' => some (.mark .wordEnd)
  | _ => none

/-- An escape, the backslash already taken. -/
def read (verbose : Bool) : Text → Except Fault (Escape × Text)
  | [] => .error .escape
  | c :: s =>
    let ofAtom : Except Fault (Atom × Text) → Except Fault (Escape × Text) :=
      Except.map fun (a, rest) => (.atom a, rest)
    if c.isDigit then .error .backReference
    else if isEscapable c then .ok (.atom (.char c false), s)
    else
      match c with
      | 'x' => ofAtom (readHex verbose 2 s)
      | 'u' => ofAtom (readHex verbose 4 s)
      | 'U' => ofAtom (readHex verbose 8 s)
      | 'p' => ofAtom (readProperty verbose false s)
      | 'P' => ofAtom (readProperty verbose true s)
      | 'b' => (readEdge verbose s).map fun (edge, rest) => (.mark edge, rest)
      | c =>
        match ofLetter? c with
        | some e => .ok (e, s)
        | none => .error .escape

end Escape
end ShaderPrep.Pattern
