/-!
The modes a pattern is read in, and changes of them. A change lists flags to put on or off, each
one once.
-/
namespace ShaderPrep.Pattern

inductive Flag where
  | caseless
  | multiline
  | dotAll
  | swapGreed
  | unicode
  | carriageReturns
  | verbose
  deriving DecidableEq, Repr

def Flag.ofLetter? : Char → Option Flag
  | 'i' => some .caseless
  | 'm' => some .multiline
  | 's' => some .dotAll
  | 'U' => some .swapGreed
  | 'u' => some .unicode
  | 'R' => some .carriageReturns
  | 'x' => some .verbose
  | _ => none

abbrev FlagChange := List (Flag × Bool)

/-- Whether a flag is on behind the change, if the change speaks of it. -/
def FlagChange.on? (change : FlagChange) (flag : Flag) : Option Bool :=
  (change.find? fun (f, _) => f = flag).map Prod.snd

/-- Flags that bear on what a pattern means. -/
structure Flags where
  caseless : Bool := false
  multiline : Bool := false
  dotAll : Bool := false
  swapGreed : Bool := false
  unicode : Bool := true
  carriageReturns : Bool := false

def Flags.change (flags : Flags) (change : FlagChange) : Flags where
  caseless := (change.on? .caseless).getD flags.caseless
  multiline := (change.on? .multiline).getD flags.multiline
  dotAll := (change.on? .dotAll).getD flags.dotAll
  swapGreed := (change.on? .swapGreed).getD flags.swapGreed
  unicode := (change.on? .unicode).getD flags.unicode
  carriageReturns := (change.on? .carriageReturns).getD flags.carriageReturns

end ShaderPrep.Pattern
