import ShaderPrep.CommandLine.Basic

/-!
Arguments read as commands. An option has a long name, a letter, or both; its value is attached or
is the next argument, unless that starts like an option itself. Behind two dashes everything is an
operand. A value is checked where it stands, so a fault counts before help that is asked for later.
-/
namespace ShaderPrep.CommandLine

/-- What an option or operand may be. -/
inductive ValueKind where
  | text
  /-- The path of a file, which is not empty. -/
  | path
  | target
  deriving DecidableEq, Repr

def ValueKind.accepts (value : Text) : ValueKind → Bool
  | text => true
  | path => !value.isEmpty
  | target => (TargetName.ofSpelling? value).isSome

structure OptionRule where
  /-- The name that a command knows the option by, which also is its long name. -/
  name : Text
  letter : Option Char := none
  hasLong : Bool := true
  /-- The kind of its value, if it takes one. -/
  kind : Option ValueKind := none
  /-- Whether it may be given more than once. -/
  repeats : Bool := false

namespace OptionRule

def define : OptionRule :=
  { name := "define".toList, letter := some 'D', kind := some .text, repeats := true }

def output : OptionRule :=
  { name := "output".toList, letter := some 'o', hasLong := false, kind := some .path }

def value (name : String) (kind : ValueKind) : OptionRule := { name := name.toList, kind }

def flag (name : String) : OptionRule := { name := name.toList }

end OptionRule

/-- What a command takes: one operand, and options. -/
structure Rules where
  operand : ValueKind
  options : List OptionRule

def evalRules : Rules := ⟨.text, [.define]⟩

def jobRules : Rules :=
  ⟨.path, [.define, .value "config" .path, .value "repo" .text, .value "processor" .target,
    .flag "fragment", .flag "high-precision", .flag "ubo", .value "platform" .text,
    .value "version-string" .text, .output]⟩

/-- Why no command was read. -/
inductive Stop where
  | usage
  | help
  deriving DecidableEq, Repr

/-- One argument by its form. -/
inductive Argument where
  /-- Two dashes. -/
  | escape
  | long (name : Text) (value : Option Text)
  | letter (c : Char) (rest : Text)
  | operand (text : Text)
  deriving DecidableEq, Repr

def Argument.ofText : Text → Argument
  | ['-', '-'] => .escape
  | '-' :: '-' :: s =>
    match Text.cut? ['='] s with
    | some (name, value) => .long name (some value)
    | none => .long s none
  | '-' :: c :: s => .letter c s
  | s => .operand s

/-- What is attached to a letter. -/
def attached? : Text → Option Text
  | [] => none
  | '=' :: value => some value
  | value => some value

/-- The operand, and the options with their values, latest first; a flag has an empty one. -/
structure Given where
  operand : Option Text := none
  options : List (Text × Text) := []
  deriving DecidableEq, Repr

namespace Given

/-- All values of an option, in order. -/
def all (g : Given) (name : Text) : List Text :=
  ((g.options.filter (·.1 == name)).map Prod.snd).reverse

def addOperand (kind : ValueKind) (g : Given) (value : Text) : Except Stop Given :=
  if g.operand.isSome || !kind.accepts value then .error .usage
  else .ok { g with operand := some value }

def addOption (rule : OptionRule) (g : Given) (value : Text) : Except Stop Given :=
  if (!rule.repeats && !(g.all rule.name).isEmpty) || !rule.kind.all (·.accepts value) then
    .error .usage
  else .ok { g with options := (rule.name, value) :: g.options }

end Given

/-- What an argument begins: an option that still wants its value, or one that is complete. -/
def beginOption (rules : List OptionRule) : Argument → Except Stop (OptionRule × Option Text)
  | .long name value =>
    match rules.find? fun rule => rule.hasLong && rule.name == name, value with
    | none, none => .error (if name = "help".toList then .help else .usage)
    | none, some _ => .error .usage
    | some rule, value =>
      if rule.kind.isSome then .ok (rule, value)
      else if value.isNone then .ok (rule, some [])
      else .error .usage
  | .letter c rest =>
    match rules.find? (·.letter == some c) with
    | none => .error (if c = 'h' then .help else .usage)
    | some rule => .ok (rule, attached? rest)
  | _ => .error .usage

/-- The arguments in order, behind those that were given already; `pending` is an option that wants
its value. The first argument that is refused, or that asks for help, decides. -/
def gather (rules : Rules) (g : Given) : Option OptionRule → List Text → Except Stop Given
  | none, [] => .ok g
  | some _, [] => .error .usage
  | pending, arg :: rest =>
    match pending, Argument.ofText arg with
    | none, .escape => rest.foldlM (Given.addOperand rules.operand) g
    | none, .operand value => do gather rules (← g.addOperand rules.operand value) none rest
    | some rule, .operand value => do gather rules (← g.addOption rule value) none rest
    | some _, _ => .error .usage
    | none, argument => do
      match ← beginOption rules.options argument with
      | (rule, some value) => gather rules (← g.addOption rule value) none rest
      | (rule, none) => gather rules g (some rule) rest

def readEval (args : List Text) : Except Stop Command := do
  let g ← gather evalRules {} none args
  match g.operand with
  | none => .error .usage
  | some condition => return .eval condition (g.all "define".toList)

def readJob (task : Task) (args : List Text) : Except Stop Command := do
  let g ← gather jobRules {} none args
  let single (name : String) : Option Text := (g.all name.toList).head?
  match g.operand with
  | none => .error .usage
  | some file => return .work {
      task, file
      defines := g.all "define".toList
      config := single "config"
      repository := single "repo"
      target := ((single "processor").bind TargetName.ofSpelling?).getD .webGl2
      isFragment := (single "fragment").isSome
      highPrecision := (single "high-precision").isSome
      supportsUniformBuffers := (single "ubo").isSome
      platform := single "platform"
      version := single "version-string"
      output := single "output" }

/-- Commands that help can be asked for. -/
def commandNames : List Text := ["process", "preprocess", "eval", "help"].map String.toList

/-- The command of a whole command line. -/
def read : List Text → Except Stop Command
  | [] => .error .usage
  | first :: rest =>
    if first = "eval".toList then readEval rest
    else if first = "process".toList then readJob .process rest
    else if first = "preprocess".toList then readJob .preprocess rest
    else
      match Argument.ofText first with
      | .long name none =>
        if name = "version".toList then .ok .version
        else if name = "help".toList then .ok .help
        else .error .usage
      | .letter 'V' _ => .ok .version
      | .letter 'h' _ => .ok .help
      | .operand name =>
        if name ≠ "help".toList then .error .usage
        else
          match rest with
          | [] => .ok .help
          | [command] => if commandNames.contains command then .ok .help else .error .usage
          | _ => .error .usage
      | _ => .error .usage

example : (read (["eval", "A", "-DA=1", "--define=B"].map String.toList)).toOption =
    some (.eval ['A'] ["A=1".toList, ['B']]) := by decide
example : (read (["eval", "-1 < 0"].map String.toList)).toOption = none := by decide
example : (read (["help", "nope"].map String.toList)).toOption = none := by decide
example : (read (["process", "a.fx", "--ubo", "--ubo"].map String.toList)).toOption = none := by
  decide

end ShaderPrep.CommandLine
