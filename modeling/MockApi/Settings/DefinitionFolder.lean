import MockApi.Definition.Outline
import MockApi.Files
import MockApi.Format
import MockApi.Settings.Basic

/-!
Folders of definition files. Every file with the extension of a format holds one definition; other
names are passed over.
-/
namespace MockApi

def Format.readAs? (outline : Outline) (text : String) : Format → Option Json
  | json => (Json.parseVerbatim text).toOption
  | toml => Toml.parse? text
  | yaml => Yaml.parse? text >>= Yaml.toJson? .core outline

/-- Where the definitions of one kind are kept, and how one is read. -/
structure DefinitionFolder (α : Type) where
  path : String
  outline : Outline
  decode? : Json → Option α

namespace DefinitionFolder

def schemas : DefinitionFolder Schema := ⟨"config/schemas", Schema.outline, Schema.decode?⟩

def endpoints : DefinitionFolder Endpoint :=
  ⟨"config/endpoints", Endpoint.outline, Endpoint.decode?⟩

def envelopes : DefinitionFolder Envelope :=
  ⟨"config/wrappers", Envelope.outline, Envelope.decode?⟩

variable {α : Type}

/-- The definition in a file, if its name has the extension of a format. -/
def readEntry? (folder : DefinitionFolder α) (entry : String × Option String) :
    Option (Option α) :=
  match Format.ofFileName? entry.1 with
  | none => some none
  | some format => do
      let json ← format.readAs? folder.outline (← entry.2)
      some <$> folder.decode? json

/-- The definitions in the order of the file names; none if one of them cannot be read. -/
def readAll? (folder : DefinitionFolder α) (files : Files) (root : String) : Option (List α) := do
  let found ← (files.entries (Path.join root folder.path)).mapM folder.readEntry?
  return found.filterMap id

end DefinitionFolder
end MockApi
