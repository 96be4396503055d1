import ShaderPrep.Table

/-!
Preprocessor symbols: names with textual values, and the entries of a list of defines that
give them. An entry may be spelled as a bare name, a name with a value or a whole define line.
-/
namespace ShaderPrep

abbrev Symbols := Table Text

/-- A name and the value given to it. -/
structure Define where
  name : Text
  value : Text
  deriving DecidableEq, Repr

namespace Define

/-- The entry without the define word in front of it and one semicolon behind it. -/
def core (entry : Text) : Text :=
  let s := entry.trim
  let s := ((Text.after? "#define".toList s).getD s).trim
  (s.dropLastIf ';').trim

/-- Reads one entry. The name ends at the first space; a missing value is empty. -/
def ofEntry (entry : Text) : Define :=
  match Text.cut? [' '] (core entry) with
  | some (name, value) => ⟨name, value.trim⟩
  | none => ⟨core entry, []⟩

end Define

namespace Symbols

/-- The table a list of entries gives; a later entry wins. -/
def ofEntries (entries : List Text) : Symbols :=
  entries.foldl (fun table entry =>
    table.insert (Define.ofEntry entry).name (Define.ofEntry entry).value) ∅

end Symbols

example : Define.ofEntry "#define NUM 4;".toList = ⟨"NUM".toList, "4".toList⟩ := by decide
example : Define.ofEntry " FOG ".toList = ⟨"FOG".toList, []⟩ := by decide

end ShaderPrep
