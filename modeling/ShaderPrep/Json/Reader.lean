import ShaderPrep.Json.Basic
import ShaderPrep.Numeral

/-!
JSON texts read as values: one value with blanks around it and nothing else. Records keep every
member, names that come again included.
-/
namespace ShaderPrep.Json

def isBlank (c : Char) : Bool := c = ' ' || c = '\n' || c = '\t' || c = '\r'

def skipBlanks (s : Text) : Text := s.dropWhile isBlank

/-- The number of four hexadecimal digits. -/
def fourDigits? (digits : Text) : Option Nat :=
  if digits.length = 4 ∧ digits.all (Numeral.isDigit 16) then
    some (digits.foldl (fun n c => n * 16 + Numeral.digitValue c) 0)
  else none

/-- What a letter stands for behind a backslash. -/
def escaped? : Char → Option Char
  | '"' => some '"'
  | '\\' => some '\\'
  | '/' => some '/'
  | 'b' => some '\x08'
  | 'f' => some '\x0c'
  | 'n' => some '\n'
  | 'r' => some '\r'
  | 't' => some '\t'
  | _ => none

/-- The code numbers of a string up to its closing quote, surrogates not yet paired. -/
def stringCodes? : Text → Option (List Nat × Text)
  | '"' :: s => some ([], s)
  | '\\' :: 'u' :: a :: b :: c :: d :: s => do
    let code ← fourDigits? [a, b, c, d]
    let (codes, rest) ← stringCodes? s
    return (code :: codes, rest)
  | '\\' :: c :: s => do
    let c ← escaped? c
    let (codes, rest) ← stringCodes? s
    return (c.toNat :: codes, rest)
  | c :: s => do
    guard (' ' ≤ c)
    let (codes, rest) ← stringCodes? s
    return (c.toNat :: codes, rest)
  | [] => none

def isHighSurrogate (code : Nat) : Bool := 0xD800 ≤ code && code < 0xDC00

def isLowSurrogate (code : Nat) : Bool := 0xDC00 ≤ code && code < 0xE000

/-- The characters of code numbers, if every surrogate has its partner. -/
def textOfCodes? : List Nat → Option Text
  | [] => some []
  | code :: codes =>
    if isHighSurrogate code then
      match codes with
      | low :: codes =>
        if isLowSurrogate low then
          let c := Char.ofNat (0x10000 + (code - 0xD800) * 0x400 + (low - 0xDC00))
          (textOfCodes? codes).map (c :: ·)
        else none
      | [] => none
    else if isLowSurrogate code then none
    else (textOfCodes? codes).map (Char.ofNat code :: ·)

/-- A string behind its opening quote. -/
def string? (s : Text) : Option (Option Text × Text) :=
  (stringCodes? s).map fun (codes, rest) => (textOfCodes? codes, rest)

/-- At least one decimal digit, and what follows all of them. -/
def digits? (s : Text) : Option (Text × Text) :=
  match s.takeWhile (Numeral.isDigit 10) with
  | [] => none
  | digits => some (digits, s.dropWhile (Numeral.isDigit 10))

/-- What follows a fraction, if the text starts with one. -/
def afterFraction? : Text → Option Text
  | '.' :: s => (digits? s).map Prod.snd
  | s => some s

/-- What follows an exponent, if the text starts with one. -/
def afterExponent? (s : Text) : Option Text :=
  let unsigned : Text → Text
    | '+' :: s => s
    | '-' :: s => s
    | s => s
  match s with
  | 'e' :: s => (digits? (unsigned s)).map Prod.snd
  | 'E' :: s => (digits? (unsigned s)).map Prod.snd
  | s => some s

/-- A number without needless zeros in front. -/
def number? (s : Text) : Option (Value × Text) := do
  let (negative, s) : Bool × Text := match s with
    | '-' :: s => (true, s)
    | s => (false, s)
  let (digits, whole) ← digits? s
  guard (digits = ['0'] ∨ digits.head? ≠ some '0')
  let rest ← afterFraction? whole >>= afterExponent?
  let n : Int := digits.foldl (fun n c => n * 10 + Numeral.digitValue c) 0
  if rest ≠ whole ∨ (negative ∧ n = 0) then return (.number, rest)
  else return (.integer (if negative then -n else n), rest)

/-- A value that is no list and no record. -/
def scalar? (s : Text) : Option (Value × Text) :=
  match s with
  | '"' :: s => (string? s).map fun (text, rest) => (.string text, rest)
  | 'n' :: _ => (Text.after? "null".toList s).map fun rest => (.null, rest)
  | 't' :: _ => (Text.after? "true".toList s).map fun rest => (.bool true, rest)
  | 'f' :: _ => (Text.after? "false".toList s).map fun rest => (.bool false, rest)
  | s => number? s

/-- The name of a member with the colon behind it. -/
def name? (s : Text) : Option (Option Text × Text) := do
  let s ← Text.after? ['"'] (skipBlanks s)
  let (name, s) ← string? s
  let s ← Text.after? [':'] (skipBlanks s)
  return (name, skipBlanks s)

mutual

/-- A value at the start of a text, its parts found within `fuel` steps. -/
def value? : Nat → Text → Option (Value × Text)
  | 0, _ => none
  | fuel + 1, s =>
    match s with
    | '[' :: s =>
      match skipBlanks s with
      | ']' :: s => some (.list [], s)
      | s => (items? fuel s).map fun (items, rest) => (.list items, rest)
    | '\x7b' :: s =>
      match skipBlanks s with
      | '\x7d' :: s => some (.record [], s)
      | s => (members? fuel s).map fun (members, rest) => (.record members, rest)
    | s => scalar? s

/-- The items of a list up to its end. -/
def items? : Nat → Text → Option (List Value × Text)
  | 0, _ => none
  | fuel + 1, s => do
    let (first, rest) ← value? fuel s
    match skipBlanks rest with
    | ',' :: s =>
      let (others, rest) ← items? fuel (skipBlanks s)
      return (first :: others, rest)
    | ']' :: rest => return ([first], rest)
    | _ => none

/-- The members of a record up to its end. -/
def members? : Nat → Text → Option (List (Option Text × Value) × Text)
  | 0, _ => none
  | fuel + 1, s => do
    let (name, s) ← name? s
    let (value, rest) ← value? fuel s
    match skipBlanks rest with
    | ',' :: s =>
      let (others, rest) ← members? fuel s
      return ((name, value) :: others, rest)
    | '\x7d' :: rest => return ([(name, value)], rest)
    | _ => none

end

/-- The value of a whole text. A value and the list around it take two steps for a character at
least, which bounds the steps. -/
def read (s : Text) : Option Value := do
  let (value, rest) ← value? (2 * s.length + 2) (skipBlanks s)
  guard (skipBlanks rest = [])
  return value

end ShaderPrep.Json
