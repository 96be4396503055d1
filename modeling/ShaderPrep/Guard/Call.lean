import ShaderPrep.Text.Substitute

/-!
Calls of `defined` inside conditions. While parentheses are matched a call is written with square
brackets, so that its own parentheses do not count; an operand gets them back.
-/
namespace ShaderPrep.Guard.Call

/-- A delimited argument: at least one character, then up to the first `close` on the same line.
The first character may be the closing one. -/
def argument? (close : Char) : Text → Option Text
  | [] => none
  | c :: s =>
    if c = '\n' then none
    else
      match s.dropWhile fun d => d != close && d != '\n' with
      | [] => none
      | d :: _ =>
        if d = close then some (c :: s.takeWhile fun d => d != close && d != '\n') else none

/-- The argument of a call at the start of the text and the number of characters the call has. -/
def match? (opening close : Char) (s : Text) : Option (Text × Nat) := do
  let s ← Text.after? "defined".toList s
  let blanks := s.takeWhile Unicode.isBlank
  let s ← Text.after? [opening] (s.dropWhile Unicode.isBlank)
  let argument ← argument? close s
  return (argument, "defined".length + blanks.length + argument.length + 2)

/-- Turns calls from one kind of brackets to another. -/
def rule (opening close opening' close' : Char) : Text.Rule := fun s =>
  (match? opening close s).map fun (argument, width) =>
    ("defined".toList ++ [opening'] ++ argument ++ [close'], width)

def protect : Text → Text := Text.substitute (rule '(' ')' '[' ']')

def restore : Text → Text := Text.substitute (rule '[' ']' '(' ')')

/-- The argument of the first call from which the line goes on to a closing parenthesis, up to the
last one of that line. -/
def widest? : Text → Option Text
  | [] => none
  | c :: s =>
    let here := do
      let rest ← Text.after? "defined(".toList (c :: s)
      let (argument, _) ← Text.cutLast? [')'] (rest.takeWhile (· != '\n'))
      if argument = [] then none else some argument
    match here with
    | some argument => some argument
    | none => widest? s

example : protect "defined (A) && !defined(B)".toList = "defined[A] && !defined[B]".toList := by
  decide
example : protect "defined())".toList = "defined[)]".toList := by decide

end ShaderPrep.Guard.Call
