import ShaderPrep.Text.Basic
import ShaderPrep.Unicode.Age
import ShaderPrep.Unicode.Derived
import ShaderPrep.Unicode.Script

/-!
Sets of characters by name. A name alone is one of a property, a category or a script, in this
order; otherwise it is a value of a property. Names differ neither in case nor in separators.
-/
namespace ShaderPrep.Unicode

/-- The lower-case letters, digits and signs of a name, without "is" in front. "Is_C" keeps it, for
it is no name of the category "c". -/
def simplify (name : Text) : String :=
  let signs (s : Text) : Text :=
    (s.filter fun c => c.toNat < 128 && !(c = ' ' || c = '_' || c = '-')).map Char.toLower
  match name with
  | i :: s :: rest =>
    if i.toLower = 'i' && s.toLower = 's' then
      if signs rest = ['c'] then "isc" else String.ofList (signs rest)
    else String.ofList (signs name)
  | _ => String.ofList (signs name)

/-- The set of a name that stands alone. -/
def named? (name : Text) : Option Ranges :=
  let name := simplify name
  Property.named? name <|> Category.named? name <|> Script.named? name

/-- The set of a property's value. -/
def valued? (property value : Text) : Option Ranges :=
  let value := simplify value
  match simplify property with
  | "gc" | "generalcategory" => Category.named? value
  | "sc" | "script" => Script.named? value
  | "scx" | "scriptextensions" => Script.users? value
  | "age" => Age.named? value
  | "gcb" | "graphemeclusterbreak" => Segment.cluster? value
  | "wb" | "wordbreak" => Segment.word? value
  | "sb" | "sentencebreak" => Segment.sentence? value
  | _ => none

/-- The set that a name, or a property and its value, asks for. Between these two stands "!=", or
else ":", or else "="; none of them turns the set around. -/
def asked? (s : Text) : Option Ranges :=
  match Text.cut? "!=".toList s <|> Text.cut? ":".toList s <|> Text.cut? "=".toList s with
  | some (property, value) => valued? property value
  | none => named? s

end ShaderPrep.Unicode
