import ShaderPrep.Guard.Lexeme

/-!
Conditions in reverse Polish order, by the shunting yard: operands go out as they come, junctions
wait until one that binds less or a parenthesis lets them go. Parentheses need not be balanced.
-/
namespace ShaderPrep.Guard

inductive Junction where
  | and
  | or
  deriving DecidableEq, Repr

namespace Junction

def sign : Junction → Text
  | and => "&&".toList
  | or => "||".toList

/-- How strongly the junction binds. -/
def strength : Junction → Nat
  | and => 3
  | or => 2

end Junction

/-- One element of a condition in reverse Polish order. -/
inductive Rpn where
  | operand (text : Text)
  | junction (junction : Junction)
  deriving DecidableEq, Repr

namespace Rpn

def spelling : Rpn → Text
  | operand text => text
  | junction j => j.sign

/-- What waits in the yard. -/
inductive Waiting where
  | junction (junction : Junction)
  | opening
  deriving DecidableEq, Repr

structure Yard where
  output : List Rpn := []
  waiting : List Waiting := []
  /-- Operand text read since the last structural lexeme. -/
  pending : Text := []

namespace Yard

/-- Lets the junctions go that bind at least as strongly as `strength`. -/
def release (strength : Nat) : List Waiting → List Rpn × List Waiting
  | .junction j :: rest =>
    if strength ≤ j.strength then
      let (out, left) := release strength rest
      (.junction j :: out, left)
    else ([], .junction j :: rest)
  | rest => ([], rest)

/-- Lets everything go up to the innermost parenthesis, and drops that. -/
def close : List Waiting → List Rpn × List Waiting
  | [] => ([], [])
  | .opening :: rest => ([], rest)
  | .junction j :: rest =>
    let (out, left) := close rest
    (.junction j :: out, left)

/-- All junctions that still wait, parentheses dropped. -/
def drain : List Waiting → List Rpn
  | [] => []
  | .opening :: rest => drain rest
  | .junction j :: rest => .junction j :: drain rest

/-- The pending text as an operand, unless it is blank. -/
def operands (pending : Text) : List Rpn :=
  match pending.trim with
  | [] => []
  | text => [.operand text]

def join (yard : Yard) (j : Junction) : Yard :=
  let (out, left) := release j.strength yard.waiting
  ⟨yard.output ++ (operands yard.pending ++ out), .junction j :: left, []⟩

/-- One lexeme. Text in front of an opening parenthesis is dropped. -/
def step (yard : Yard) : Lexeme → Yard
  | .and => yard.join .and
  | .or => yard.join .or
  | .opening => { yard with waiting := .opening :: yard.waiting, pending := [] }
  | .closing =>
    let (out, left) := close yard.waiting
    ⟨yard.output ++ (operands yard.pending ++ out), left, []⟩
  | lexeme => { yard with pending := yard.pending ++ lexeme.spelling }

def finish (yard : Yard) : List Rpn :=
  yard.output ++ (operands yard.pending ++ drain yard.waiting)

end Yard

def shunt (lexemes : List Lexeme) : List Rpn := (lexemes.foldl Yard.step {}).finish

/-- A condition without structure is one operand, kept with the blanks around it. -/
def ofCondition (condition : Text) : List Rpn :=
  let lexemes := Lexeme.scan condition
  if lexemes.any Lexeme.isStructural then shunt lexemes else [.operand condition]

/-- One element read onto a stack of texts; a junction short of operands is skipped. -/
def infixStep : List Text → Rpn → List Text
  | stack, operand text => text :: stack
  | right :: left :: stack, junction j =>
    ('(' :: (left ++ (j.sign ++ (right ++ [')'])))) :: stack
  | stack, junction _ => stack

/-- The condition with its operators between their operands again, in parentheses throughout. -/
def toInfix (rpn : List Rpn) : Text := (rpn.foldl infixStep []).headD []

end Rpn
end ShaderPrep.Guard
