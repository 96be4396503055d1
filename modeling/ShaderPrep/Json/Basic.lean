import ShaderPrep.Text.Basic

/-!
Values of JSON texts. A number counts only as an integer; a string with a surrogate that has no
partner is well formed, but there is no text it stands for.
-/
namespace ShaderPrep.Json

inductive Value where
  | null
  | bool (value : Bool)
  | integer (value : Int)
  /-- A number with a fraction or an exponent, or a negative zero. -/
  | number
  | string (text : Option Text)
  | list (items : List Value)
  | record (members : List (Option Text × Value))

namespace Value

def asText? : Value → Option Text
  | string text => text
  | _ => none

def asBool? : Value → Option Bool
  | bool value => some value
  | _ => none

/-- A signed 64-bit integer. -/
def asInt? : Value → Option Int
  | integer n => if -0x8000000000000000 ≤ n ∧ n ≤ 0x7FFFFFFFFFFFFFFF then some n else none
  | _ => none

def asTexts? : Value → Option (List Text)
  | list items => items.mapM asText?
  | _ => none

/-- The members of a record whose names all stand for texts. -/
def asMembers? : Value → Option (List (Text × Value))
  | record members => members.mapM fun (name, value) => name.map fun name => (name, value)
  | _ => none

end Value
end ShaderPrep.Json
