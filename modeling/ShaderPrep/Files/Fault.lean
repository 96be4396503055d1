import ShaderPrep.Failure

/-! Why a file cannot be read or written, in the words and with the numbers of the system. -/
namespace ShaderPrep

inductive FileFault where
  | notFound
  | denied
  | isDirectory
  | notDirectory
  | nameTooLong
  | zeroInName
  | notText
  /-- A fault that only the system can tell of. -/
  | other (reason : Text)
  deriving DecidableEq, Repr

namespace FileFault

/-- The number that the system gives a fault of its own. -/
def number? : FileFault → Option Nat
  | notFound => some 2
  | denied => some 13
  | notDirectory => some 20
  | isDirectory => some 21
  | nameTooLong => some 36
  | zeroInName | notText | other _ => none

def description : FileFault → Text
  | notFound => "No such file or directory".toList
  | denied => "Permission denied".toList
  | isDirectory => "Is a directory".toList
  | notDirectory => "Not a directory".toList
  | nameTooLong => "File name too long".toList
  | zeroInName => "file name contained an unexpected NUL byte".toList
  | notText => "stream did not contain valid UTF-8".toList
  | other reason => reason

def message (fault : FileFault) : Text :=
  match fault.number? with
  | none => fault.description
  | some number => fault.description ++ " (os error ".toList ++ Text.ofNat number ++ [')']

/-- The failure to load from a location. -/
def toFailure (fault : FileFault) (url : Text) : Failure :=
  { cause := .loadFailed url fault.message }

end FileFault
end ShaderPrep
