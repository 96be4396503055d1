import ShaderPrep.CommandLine.Arguments
import ShaderPrep.CommandLine.Run

/-!
The program. A command is run on the files read so far; a file that the run asked for and that is
not among them is read, and the run starts again, until all it needs is there.
-/
open ShaderPrep ShaderPrep.CommandLine

namespace ShaderPrep.Program

/-- The number of a fault. Some calls of the system give it with the sign reversed. -/
def faultNumber (code : UInt32) : Nat :=
  if code < 0x80000000 then code.toNat else (0 - code).toNat

def faultOfCode (code : UInt32) (details : String) : FileFault :=
  let number := faultNumber code
  match [FileFault.notFound, .denied, .notDirectory, .isDirectory, .nameTooLong].find? fun fault =>
    fault.number? == some number with
  | some fault => fault
  | none => .other (details.toList ++ " (os error ".toList ++ Text.ofNat number ++ [')'])

def faultOfError : IO.Error → FileFault
  | .noFileOrDirectory _ code details => faultOfCode code details
  | .inappropriateType _ code details => faultOfCode code details
  | .invalidArgument _ code details => faultOfCode code details
  | .permissionDenied _ code details => faultOfCode code details
  | .resourceExhausted _ code details => faultOfCode code details
  | error => .other error.toString.toList

def readFile (path : Text) : IO (Except FileFault Text) := do
  try
    match String.fromUTF8? (← IO.FS.readBinFile (String.ofList path)) with
    | none => return .error .notText
    | some text => return .ok text.toList
  catch error => return .error (faultOfError error)

def writeFile (path text : Text) : IO (Except FileFault Unit) := do
  try
    IO.FS.writeFile (String.ofList path) (String.ofList text)
    return .ok ()
  catch error => return .error (faultOfError error)

/-- The action of a command, with `reads` known of the files. -/
partial def actionOf (command : Command) (reads : List (Text × Except FileFault Text)) :
    IO Action := do
  let run := command.run (.ofReads reads)
  match run.loads.find? fun path => (Entries.find? path reads).isNone with
  | none => return run.value
  | some path => actionOf command ((path, ← readFile path) :: reads)

def outcomeOf (args : List Text) : IO Outcome := do
  match read args with
  | .error .usage => return .usage
  | .error .help => return { out := helpText }
  | .ok command =>
    let action ← actionOf command []
    match action with
    | .write path text => return action.outcome (← writeFile path text)
    | _ => return action.outcome (.ok ())

end ShaderPrep.Program

def main (args : List String) : IO UInt32 := do
  let outcome ← Program.outcomeOf (args.map String.toList)
  IO.print (String.ofList outcome.out)
  IO.eprint (String.ofList outcome.err)
  return outcome.exit.toUInt32
