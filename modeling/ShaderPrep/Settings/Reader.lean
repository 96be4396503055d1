import ShaderPrep.Failure
import ShaderPrep.Json.Reader
import ShaderPrep.Settings

/-!
Settings read from JSON. A record gives them by name, a list in their fixed order; what is not
given keeps its default. Members with other names may hold anything.
-/
namespace ShaderPrep.Settings

/-- A setting that a text can give, and how it is taken over. -/
structure Field where
  name : String
  change? : Settings → Json.Value → Option Settings

/-- Named bounds, of which the last of a name counts. -/
def bounds? (value : Json.Value) : Option (Table Int) := do
  let members ← value.asMembers?
  let entries ← members.mapM fun (name, value) => value.asInt?.map fun n => (name, n)
  return Table.ofList entries

/-- A setting with the way to write it. -/
def Field.of (name : String) (value? : Json.Value → Option α) (write : α → Settings → Settings) :
    Field where
  name := name
  change? settings value := (value? value).map fun a => write a settings

/-- The settings in their order. -/
def fields : List Field := [
  .of "defines" (·.asTexts?) fun defines s => { s with defines },
  .of "index_parameters" bounds? fun indexParameters s => { s with indexParameters },
  .of "is_fragment" (·.asBool?) fun isFragment s => { s with isFragment },
  .of "should_use_high_precision_shader" (·.asBool?) fun highPrecision s =>
    { s with highPrecision },
  .of "supports_uniform_buffers" (·.asBool?) fun supportsUniformBuffers s =>
    { s with supportsUniformBuffers },
  .of "shaders_repository" (·.asText?) fun repository s => { s with repository },
  .of "version" (·.asText?) fun version s => { s with version },
  .of "platform_name" (·.asText?) fun platform s => { s with platform },
  .of "is_ndc_half_z_range" (·.asBool?) fun isNdcHalfZRange s => { s with isNdcHalfZRange },
  .of "use_reverse_depth_buffer" (·.asBool?) fun useReverseDepthBuffer s =>
    { s with useReverseDepthBuffer }]

/-- One member of a record; `seen` holds the names of settings given before it. -/
def changeMember? (state : Settings × List Text) (member : Text × Json.Value) :
    Option (Settings × List Text) :=
  match fields.find? (·.name.toList == member.1) with
  | none => some state
  | some field =>
    if state.2.contains member.1 then none
    else (field.change? state.1 member.2).map fun settings => (settings, member.1 :: state.2)

def ofRecord? (members : List (Text × Json.Value)) : Option Settings :=
  (members.foldlM changeMember? ({}, [])).map Prod.fst

def ofList? (items : List Json.Value) : Option Settings :=
  if items.length ≤ fields.length then
    (fields.zip items).foldlM (fun settings (field, value) => field.change? settings value) {}
  else none

def ofJson? (value : Json.Value) : Option Settings :=
  match value with
  | .list items => ofList? items
  | value => value.asMembers? >>= ofRecord?

/-- The settings that a text gives. Why a text gives none is told in words of this library's own;
what is fixed is which texts are refused, and that the cause is the configuration. -/
def read (text : Text) : Except Failure Settings :=
  match Json.read text with
  | none => .error { cause := .configuration "not a JSON text".toList }
  | some value =>
    match ofJson? value with
    | none => .error { cause := .configuration "a setting of the wrong form".toList }
    | some settings => .ok settings

end ShaderPrep.Settings
