import ShaderPrep.CommandLine.Basic
import ShaderPrep.Files.View
import ShaderPrep.Guard.Reader
import ShaderPrep.Processing.Run
import ShaderPrep.Settings.Reader
import ShaderPrep.Target.WebGl2

/-!
Commands carried out. A run reads files and ends in one action; every file it reads is among the
loads of its trace.
-/
namespace ShaderPrep.CommandLine

/-- What a command comes to. -/
inductive Action where
  | print (text : Text)
  | write (path text : Text)
  | fail (reason : Text)
  deriving DecidableEq, Repr

/-- What is left for the caller: an exit code and the texts of both outputs. -/
structure Outcome where
  exit : Nat := 0
  out : Text := []
  err : Text := []
  deriving DecidableEq, Repr

def Outcome.ofFailure (reason : Text) : Outcome :=
  { exit := 1, err := "error: ".toList ++ reason ++ ['\n'] }

def Outcome.usage : Outcome := { exit := 2, err := "error: see shaderpp --help\n".toList }

def TargetName.target : TargetName → Option (Target Unit)
  | webGl2 => some Target.WebGl2.target
  | glsl => some (.plain .glsl)
  | wgsl => some (.plain .wgsl)
  | none => Option.none

/-- "cannot `verb` 'file': reason". -/
def cannot (verb : String) (file reason : Text) : Text :=
  "cannot ".toList ++ verb.toList ++ " '".toList ++ file ++ "': ".toList ++ reason

/-- Reads a file. -/
def readFile (files : FileView) (path : Text) : Traced (Except FileFault Text) :=
  ⟨files.read path, [.load path]⟩

/-- The settings that a job starts from. -/
def Job.baseSettings (job : Job) (files : FileView) : ExceptT Text Traced Settings :=
  match job.config with
  | none => return {}
  | some path => do
    let text ← readFile files path
    let settings := text.mapError (·.toFailure path) >>= Settings.read
    ExceptT.mk (pure (settings.mapError fun failure =>
      cannot "read options from" path failure.message))

/-- What the command line says about the settings goes over them; its defines come last. -/
def Job.settings (job : Job) (base : Settings) : Settings :=
  { base with
    defines := base.defines ++ job.defines
    isFragment := base.isFragment || job.isFragment
    highPrecision := base.highPrecision || job.highPrecision
    supportsUniformBuffers := base.supportsUniformBuffers || job.supportsUniformBuffers
    repository := job.repository.getD base.repository
    platform := job.platform.getD base.platform
    version := job.version.getD base.version }

def Task.run (task : Task) (o : Options Unit) (engine : Engine) (source : Text) :
    Run Unit (Except Failure Processed) :=
  match task with
  | process => o.process engine source
  | preprocess => o.preprocess engine source

/-- The code that a job makes of its file. -/
def Job.code (job : Job) (files : FileView) : ExceptT Text Traced Text := do
  let source ← ExceptT.mk do
    return (← readFile files job.file).mapError fun fault => cannot "read" job.file fault.message
  let base ← job.baseSettings files
  let o : Options Unit := { job.settings base with target := job.target.target }
  let engine := files.engine job.supportsUniformBuffers []
  let work : Run Unit (Except Failure Processed) := do
    o.setUp
    job.task.run o engine source
  let (result, _) ← (work.run { lines := ⟨(), false⟩ } : Traced _)
  match result with
  | .error failure => throw (cannot (String.ofList job.task.name) job.file failure.message)
  | .ok processed => return processed.code

def Job.run (job : Job) (files : FileView) : Traced Action := do
  match ← (job.code files).run with
  | .error reason => return .fail reason
  | .ok code =>
    match job.output with
    | none => return .print code
    | some path => return .write path code

/-- The condition as it was understood, and its truth. -/
def evalText (condition : Text) (defines : List Text) : Traced Text := do
  let guard ← Guard.read condition
  let holds := if guard.holds (Symbols.ofEntries defines) then "true" else "false"
  return guard.toText ++ " => ".toList ++ holds.toList ++ ['\n']

def versionText : Text := "shaderpp 1.0.0\n".toList

def helpLines : List String := [
  "Shader preprocessor: conditionals, includes and platform conversion",
  "",
  "Usage: shaderpp <COMMAND>",
  "",
  "Commands:",
  "  process <FILE>     process one stage (precision, includes, conditionals, conversion)",
  "  preprocess <FILE>  resolve includes and conditionals without precision handling",
  "  eval <CONDITION>   evaluate a condition",
  "",
  "Options of all commands:",
  "  -D, --define <DEFINE>      a name, or a name with a value",
  "",
  "Options of process and preprocess:",
  "      --config <FILE>        settings as JSON",
  "      --repo <PREFIX>        what locations of includes start with",
  "      --processor <TARGET>   webgl2, glsl, wgsl or none",
  "      --fragment             the file is a fragment stage",
  "      --high-precision       ask for high precision",
  "      --ubo                  the target supports uniform buffers",
  "      --platform <NAME>      the symbol of the platform",
  "      --version-string <V>   the value of the version symbol",
  "  -o <FILE>                  write the result to a file"]

def helpText : Text := helpLines.flatMap fun line => line.toList ++ ['\n']

def Command.run (files : FileView) : Command → Traced Action
  | .eval condition defines => .print <$> evalText condition defines
  | .work job => job.run files
  | .version => return .print versionText
  | .help => return .print helpText

/-- The outcome of an action; `written` tells how writing went when that was the action. -/
def Action.outcome (action : Action) (written : Except FileFault Unit) : Outcome :=
  match action with
  | .print text => { out := text }
  | .fail reason => .ofFailure reason
  | .write path text =>
    match written with
    | .error fault => .ofFailure (cannot "write" path fault.message)
    | .ok () =>
      let size := Text.ofNat (Text.byteSize text)
      { err := "wrote shader to ".toList ++ path ++ " (".toList ++ size ++ " bytes)\n".toList }

end ShaderPrep.CommandLine
