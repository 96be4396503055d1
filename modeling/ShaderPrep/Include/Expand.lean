import ShaderPrep.Failure
import ShaderPrep.Include.Directive
import ShaderPrep.Include.Light
import ShaderPrep.Journal
import ShaderPrep.Numeral
import ShaderPrep.Pattern.Match
import ShaderPrep.Pattern.Reader
import ShaderPrep.Settings

/-!
The text that takes the place of a directive: the include's content with replacements made in
order, then the index put in, once for a single index or once for each index of a range.
-/
namespace ShaderPrep.Include

/-- Patterns with their literal replacements; a pattern without a partner is replaced by
nothing. -/
def replacementPairs : List Text → List (Text × Text)
  | [] => []
  | [pattern] => [(pattern, [])]
  | pattern :: new :: rest => (pattern, new) :: replacementPairs rest

def replaceOne (content : Text) (pair : Text × Text) : Except Failure Text :=
  match Pattern.read pair.1 with
  | .ok pattern => .ok (pattern.replaceAll pair.2 content)
  | .error fault => .error { cause := .invalidReplacement pair.1 fault.message }

def replaceMarked (replacements : Option Text) (content : Text) : Except Failure Text :=
  match replacements with
  | none => .ok content
  | some list => (replacementPairs (list.splitOn ',')).foldlM replaceOne content

/-- Content as it is before an index is put in. -/
def indexTemplate (settings : Settings) (content : Text) : Text :=
  if settings.supportsUniformBuffers then content else renameLights content

def putIndex (index template : Text) : Text := Text.replaceAll indexMark index template

/-- The integers from `first` to `last`, both included. -/
def indices (first last : Int) : List Int :=
  (List.range (last - first + 1).toNat).map fun (i : Nat) => first + i

/-- The upper bound of a range: a number, or else the name of an index parameter. -/
def upperBound (settings : Settings) (last : Text) : Traced (Option Int) :=
  match Numeral.read? last with
  | some n => pure (some n)
  | none =>
    match settings.indexParameters.get? last.trim with
    | some n => pure (some n)
    | none => do
      Traced.warn ("include range bound '".toList ++ last ++
        "' is not a number nor an index parameter".toList)
      return none

/-- The template once per index of a range, each on its own line; nothing without both bounds. -/
def unroll (settings : Settings) (first last content : Text) : Traced Text := do
  match Numeral.read? first, ← upperBound settings last with
  | some first, some last =>
    let template := indexTemplate settings content
    return (indices first last).flatMap fun i => putIndex (Text.ofInt i) template ++ ['\n']
  | _, _ => return []

def putRange (settings : Settings) (range : Option Text) (content : Text) : Traced Text :=
  match range with
  | none => pure content
  | some range =>
    match Text.cut? "..".toList range with
    | some (first, last) => unroll settings first last content
    | none => pure (putIndex range (indexTemplate settings content))

def Directive.expand (d : Directive) (settings : Settings) (content : Text) :
    Traced (Except Failure Text) :=
  match replaceMarked d.replacements content with
  | .error failure => pure (.error failure)
  | .ok content => .ok <$> putRange settings d.range content

end ShaderPrep.Include
