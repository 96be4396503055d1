import ShaderPrep.Text.Basic
import ShaderPrep.Unicode.Hidden

/-!
Text in double quotes, as it is shown to a reader: quotes, backslashes and the common control
characters are escaped by a letter, other characters that do not show by their number.
-/
namespace ShaderPrep.Text

def escape (c : Char) : Text :=
  match c with
  | '"' => ['\\', '"']
  | '\\' => ['\\', '\\']
  | '\n' => ['\\', 'n']
  | '\r' => ['\\', 'r']
  | '\t' => ['\\', 't']
  | '\x00' => ['\\', '0']
  | c =>
    if Unicode.isHidden c then ['\\', 'u', '\x7b'] ++ Nat.toDigits 16 c.toNat ++ ['\x7d'] else [c]

def quoted (s : Text) : Text := ['"'] ++ s.flatMap escape ++ ['"']

example : quoted "a\"b\t\u00a0".toList = "\"a\\\"b\\t\\u\x7ba0\x7d\"".toList := by decide

end ShaderPrep.Text
