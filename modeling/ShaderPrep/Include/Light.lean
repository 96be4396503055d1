import ShaderPrep.Text.Substitute
import ShaderPrep.Unicode.Classes

/-!
Lights without uniform buffers. Members of a light are then variables of their own that carry the
index of the light behind their name, so a member access turns into that name.
-/
namespace ShaderPrep.Include

/-- The place of an index in include text. -/
def indexMark : Text := "\x7bX\x7d".toList

/-- An access to the light with the marked index: any character but a line end stands for the dot,
and the run of word characters behind it is the member. -/
def lightRule : Text.Rule := fun s =>
  match Text.after? ("light".toList ++ indexMark) s with
  | some (dot :: rest) =>
    if dot = '\n' then none
    else
      let member := rest.takeWhile Unicode.isWord
      some (member ++ indexMark, "light".length + indexMark.length + 1 + member.length)
  | _ => none

def renameLights : Text → Text := Text.substitute lightRule

end ShaderPrep.Include
